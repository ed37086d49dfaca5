-- SUMMARY: An engine stays consistent, whatever bodies its nodes are given.
import Storyline.Engine
import Storyline.Proofs.Design.Conversion
import Storyline.Proofs.Memory.Planned
import Storyline.Proofs.Script.Nesting

/-!
# Regeneration

An engine that was built has a valid graph with the root of its settings, and a script of well-nested lists.
Giving a node a new body keeps this, whether or not the call succeeds: the graph and the settings stay as they
are, and a body is mended before it is stored. All that can be asked of an engine rests on this.
-/

namespace Storyline

variable {sources : Sources} {files : Files} {engine : Engine}

namespace Engine

/-! ## Calls -/

/-- The engine behind a call that gives a node a new body. A call that fails leaves the engine as it was. -/
def regenerate (engine : Engine) (call : NodeId × String) : Engine :=
  match engine.replaceScript call.1 call.2 with
  | .ok (next, _) => next
  | .error _ => engine

/-- The engine behind such calls, one after the other. -/
def regenerateAll (engine : Engine) (calls : List (NodeId × String)) : Engine :=
  calls.foldl regenerate engine

/-- What can be asked of an engine at all times. -/
structure Consistent (engine : Engine) : Prop where
  balanced : engine.script.Balanced
  /-- A plan is made. It has every node once, behind the nodes that are guaranteed before it. -/
  planned : ∃ memory steps, engine.memory = .ok memory ∧ engine.plan = .ok steps ∧
    (steps.map (·.node)).Nodup ∧
    (∀ id, id ∈ steps.map (·.node) ↔ engine.graph.contains id = true) ∧
    ∀ front step behind, steps = front ++ step :: behind →
      engine.memoryOf step.node = .ok step.memory ∧
      ∃ set, memory.guaranteedAncestors? step.node = some set ∧
        ∀ id, set.contains id = true → id ∈ front.map (·.node)
  remembers (id : NodeId) : (∃ text, engine.memoryOf id = .ok text) ↔ engine.graph.contains id = true
  starts : engine.graph.contains engine.newSession.node = true
  refuses (id : NodeId) (body : String) : engine.graph.contains id = false →
    engine.replaceScript id body = .error (.unknownNode id) ∧ engine.regenerate (id, body) = engine
  replaces (id : NodeId) (body : String) : engine.graph.contains id = true →
    ∃ next anomalies, engine.replaceScript id body = .ok (next, anomalies) ∧
      engine.regenerate (id, body) = next ∧ next.graph = engine.graph ∧ next.config = engine.config ∧
      next.script.get? id = some (Script.parseBody engine.config.script id body).1 ∧
      ∀ other, other ≠ id → next.script.get? other = engine.script.get? other

/-! ## What calls keep -/

/-- What building an engine makes sure of. -/
structure Sound (engine : Engine) : Prop where
  valid : engine.graph.Valid
  root : engine.graph.root = engine.config.root
  balanced : engine.script.Balanced

theorem replaceScript_of_known {id : NodeId} (body : String) (h : engine.graph.contains id = true) :
    engine.replaceScript id body =
      .ok ({ engine with
        script := engine.script.insert id (Script.parseBody engine.config.script id body).1 },
        (Script.parseBody engine.config.script id body).2) := by
  rw [replaceScript, if_pos h]

theorem replaceScript_of_unknown {id : NodeId} (body : String) (h : engine.graph.contains id = false) :
    engine.replaceScript id body = .error (.unknownNode id) := by
  rw [replaceScript, if_neg (by simp [h])]

/-- What is remembered for a node are the memories that were prepared. -/
theorem memoryOf_eq {memory : Memory} (h : engine.memory = .ok memory) (id : NodeId) :
    engine.memoryOf id = memory.text id := by
  rw [memoryOf, h]
  rfl

namespace Sound

theorem regenerate (h : engine.Sound) (call : NodeId × String) : (engine.regenerate call).Sound := by
  unfold Engine.regenerate
  cases hknown : engine.graph.contains call.1 with
  | false =>
    rw [replaceScript_of_unknown _ hknown]
    exact h
  | true =>
    rw [replaceScript_of_known _ hknown]
    refine ⟨h.valid, h.root, h.balanced.insert call.1 ?_⟩
    exact Script.wellNested_balance _

theorem regenerateAll (h : engine.Sound) (calls : List (NodeId × String)) :
    (engine.regenerateAll calls).Sound := by
  unfold Engine.regenerateAll
  induction calls generalizing engine with
  | nil => exact h
  | cons call rest ih => exact ih (h.regenerate call)

/-- All that can be asked of an engine rests on what building makes sure of. -/
theorem consistent (h : engine.Sound) : engine.Consistent where
  balanced := h.balanced
  planned := by
    obtain ⟨order, -, hmemory⟩ := Memory.exists_ofGraph h.valid engine.config.memory
    obtain ⟨steps, hplan, hnodup, hmem, hsteps⟩ := Memory.plan_complete hmemory
    refine ⟨_, steps, hmemory, ?_, hnodup, hmem, ?_⟩
    · rw [Engine.plan, Engine.memory, hmemory]
      exact hplan
    · simp only [memoryOf_eq hmemory]
      exact hsteps
  remembers id := by
    obtain ⟨order, -, hmemory⟩ := Memory.exists_ofGraph h.valid engine.config.memory
    rw [memoryOf_eq hmemory]
    exact Memory.exists_text_iff hmemory
  starts := by
    rw [newSession, Session.start, ← h.root]
    exact h.valid.root_known
  refuses id body hunknown := by
    have hrefused := replaceScript_of_unknown body hunknown
    exact ⟨hrefused, by rw [Engine.regenerate, hrefused]⟩
  replaces id body hknown := by
    have hreplaced := replaceScript_of_known body hknown
    refine ⟨_, _, hreplaced, by rw [Engine.regenerate, hreplaced], rfl, rfl, ?_, ?_⟩
    · rw [SortedMap.get?_insert, if_pos rfl]
    · intro other hother
      rw [SortedMap.get?_insert, if_neg hother]

end Sound

end Engine

/-! ## Built engines -/

theorem bind_eq_ok {α β ε : Type} {call : Except ε α} {later : α → Except ε β} {b : β}
    (h : call >>= later = .ok b) : ∃ a, call = .ok a ∧ later a = .ok b := by
  cases call with
  | error error => cases h
  | ok a => exact ⟨a, rfl, h⟩

theorem Sources.sound_build (h : sources.build files = .ok engine) : engine.Sound := by
  obtain ⟨config, -, h⟩ := bind_eq_ok h
  obtain ⟨design, -, h⟩ := bind_eq_ok h
  obtain ⟨checked, hchecked, h⟩ := bind_eq_ok h
  obtain ⟨text, -, h⟩ := bind_eq_ok h
  cases h
  refine ⟨?_, Graph.root_ofDesign design config.root, ?_⟩
  · cases hvalidate : (Graph.ofDesign design config.root).validate with
    | error error =>
      rw [hvalidate] at hchecked
      cases hchecked
    | ok checked => exact Graph.valid_of_validate hvalidate
  · cases text with
    | none => exact Script.balanced_empty
    | some text => exact Script.balanced_parse config.script text

namespace Engine

/-- An engine that was built is consistent, and stays so whatever calls give whatever nodes a new body. -/
theorem consistent_regenerateAll {built : Engine} (h : sources.build files = .ok built)
    (calls : List (NodeId × String)) : (built.regenerateAll calls).Consistent :=
  ((Sources.sound_build h).regenerateAll calls).consistent

/-- The new body of the road has the header of another node and an end without a condition, the cellar is no
node, and the new body of the inn leaves a condition open. -/
theorem consistent_regenerateAll_of_inn :
    let sources : Sources :=
      { config := some { root := "inn" }
        design := some ⟨.ofList [("inn", {}), ("road", {})], [⟨"inn", "road", none⟩]⟩
        script := some "=== Node: inn ===\n<scene>Bar</scene>\n" }
    let calls :=
      [("road", "[ENDIF]\n=== Node: inn ===\n<scene>Hill</scene>"), ("cellar", "<scene>Vault</scene>"),
        ("inn", "[IF: Ann >= 2]\n<scene>Attic</scene>")]
    ∃ built, sources.build .empty = .ok built ∧
      (built.regenerateAll calls).script.entries =
        [("inn", [.ifLevel "Ann" 2, .scene "Attic", .endIf]), ("road", [.scene "Hill"])] ∧
      (built.regenerateAll calls).Consistent := by
  intro sources calls
  have hscript : (sources.build .empty).toOption.map (fun built =>
      (built.regenerateAll calls).script.entries) =
        some [("inn", [.ifLevel "Ann" 2, .scene "Attic", .endIf]), ("road", [.scene "Hill"])] := by
    decide +kernel
  cases hbuilt : sources.build .empty with
  | error error =>
    rw [hbuilt] at hscript
    cases hscript
  | ok built =>
    rw [hbuilt] at hscript
    exact ⟨built, rfl, Option.some.inj hscript, consistent_regenerateAll hbuilt calls⟩

end Engine

end Storyline
