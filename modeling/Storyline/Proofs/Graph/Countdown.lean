-- SUMMARY: Counting the parents that a node waits for never goes below zero.
import Storyline.Proofs.Graph.Order

/-!
# Counting down

Placing a node lowers the count of each of its children by one, without a look at the count. `release?` and
`place?` are the same rounds with that look: they give up where a count would fall below zero. They never give
up, because a node is a child of its parents as often as they are its parents, and every parent is placed once.
Nor is there a round behind the last node: more rounds than nodes place nothing more.
-/

namespace Storyline.Graph

/-! ## Rounds that look at the counts -/

/-- Like `release`, but without an answer if a count would fall below zero. -/
def release? : List NodeId → Waiting → Option (Waiting × List NodeId)
  | [], waiting => some (waiting, [])
  | child :: rest, waiting =>
    match waiting.get? child with
    | none => release? rest waiting
    | some 0 => none
    | some (count + 1) =>
      (release? rest (waiting.insert child count)).map fun freed =>
        (freed.1, if count = 0 then child :: freed.2 else freed.2)

/-- Like `place`, but without an answer if a count would fall below zero. -/
def place? (graph : Graph) : (rounds : Nat) → (ready : List NodeId) → Waiting → Option (List NodeId)
  | 0, _, _ => some []
  | _ + 1, [], _ => some []
  | rounds + 1, id :: ready, waiting =>
    (release? (graph.childIds id) waiting).bind fun freed =>
      (place? graph rounds (ready ++ freed.2) freed.1).map (id :: ·)

/-- The nodes that are ready before any is placed. -/
def firstReady (graph : Graph) : List NodeId :=
  graph.ids.filter fun id => graph.knownParents id == 0

/-- What every node waits for before any is placed. -/
def firstWaiting (graph : Graph) : Waiting :=
  SortedMap.ofList (graph.ids.map fun id => (id, graph.knownParents id))

/-! ## No count falls below zero -/

variable {graph : Graph} {children done ready : List NodeId} {waiting : Waiting}

theorem release?_eq (h : Covers waiting children) :
    release? children waiting = some (release children waiting) := by
  induction children generalizing waiting with
  | nil => rfl
  | cons child rest ih =>
    rw [release?, release]
    cases hcount : waiting.get? child with
    | none => exact ih h.rest
    | some count =>
      have hpos : 1 ≤ count := by
        have hle := h child count hcount
        rw [List.count_cons_self] at hle
        omega
      obtain ⟨count, rfl⟩ := Nat.exists_eq_add_one.2 hpos
      have hrest := ih (h.insert hcount)
      rw [Nat.add_sub_cancel] at hrest
      dsimp only
      rw [hrest]
      rfl

namespace Placing

theorem place?_eq (h : Placing graph done ready waiting) (rounds : Nat) :
    graph.place? rounds ready waiting = some (graph.place rounds ready waiting) := by
  induction rounds generalizing done ready waiting with
  | zero => rfl
  | succ rounds ih =>
    cases ready with
    | nil => rfl
    | cons id ready =>
      rw [Graph.place?, release?_eq h.covers, Option.bind_some, ih h.next]
      rfl

/-- When all rounds are used that there are nodes for, no node is ready. -/
theorem place_add (h : Placing graph done ready waiting) {rounds : Nat}
    (hrounds : graph.size ≤ done.length + rounds) (more : Nat) :
    graph.place (rounds + more) ready waiting = graph.place rounds ready waiting := by
  induction rounds generalizing done ready waiting with
  | zero =>
    have hlength := length_le_size h.nodup fun id hid => ((h.mem_iff id).1 hid).1
    rw [List.length_append] at hlength
    have hready : ready = [] := List.eq_nil_of_length_eq_zero (by omega)
    rw [hready, Nat.zero_add]
    cases more <;> rfl
  | succ rounds ih =>
    cases ready with
    | nil => rw [Nat.add_right_comm]; rfl
    | cons id ready =>
      have hnext := ih h.next (by rw [List.length_append, List.length_singleton]; omega)
      rw [Nat.add_right_comm, Graph.place, Graph.place]
      dsimp only
      rw [hnext]

end Placing

/-- From as many rounds on as there are nodes, rounds that look at the counts place the same nodes as
those that do not look. -/
theorem place?_eq_placed (graph : Graph) (more : Nat) :
    graph.place? (graph.size + more) graph.firstReady graph.firstWaiting = some graph.placed := by
  have hrounds : graph.size ≤ ([] : List NodeId).length + graph.size := Nat.le_add_left _ _
  have hplacing : Placing graph [] graph.firstReady graph.firstWaiting := graph.placing_nil
  rw [hplacing.place?_eq, hplacing.place_add hrounds]
  rfl

end Storyline.Graph
