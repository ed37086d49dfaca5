-- SUMMARY: Nodes and edges of a branching story.

/-!
# Stories

A story is told in *nodes*, each a beat with one summary, and *edges* that lead from node to node. An
edge with a choice text is taken when the player picks that text; an edge without one is taken by
itself.
-/

namespace Storyline

/-- The name of a node. -/
abbrev NodeId := String

/-- What the author declares a node to be. Whether a node is a merge point is decided by its parents,
never by this. -/
inductive NodeKind where
  | normal
  | merge
  deriving DecidableEq, Inhabited

/-- One beat of the story: what happens there, in one summary. -/
structure Node where
  id : NodeId
  summary : String
  kind : NodeKind
  deriving DecidableEq, Inhabited

/-- A way from one node to another. -/
structure Edge where
  source : NodeId
  target : NodeId
  choice : Option String
  deriving DecidableEq, Inhabited

/-- A way out of a node: where it leads, and the text to pick for it. -/
structure Link where
  child : NodeId
  choice : Option String
  deriving DecidableEq, Inhabited

/-- The edge as seen from its source. -/
def Edge.link (edge : Edge) : Link :=
  ⟨edge.target, edge.choice⟩

end Storyline
