-- SUMMARY: A story put together from its settings, its design and its script.
import Storyline.AutoPlay
import Storyline.Config.Stored
import Storyline.Design
import Storyline.Files
import Storyline.Lint
import Storyline.Memory

/-!
# Engines

An engine holds a valid graph with its settings and its script. Settings, design and script are given
directly or by the path of a file; what is given directly wins. They are looked at in that order, and the
first fault is reported: settings, design, graph, script.
-/

namespace Storyline

/-- Why settings, levels or a design cannot be loaded. -/
inductive LoadError where
  | file (error : FileError)
  | malformed
  deriving DecidableEq

/-- The wording of a load error, where the text should have been in the named format. -/
def LoadError.message (format : String) : LoadError → String
  | file error => "IO error: " ++ error.message
  | malformed => format ++ " error: malformed text"

/-- Why a story cannot be put together. -/
inductive BuildError where
  | config (error : LoadError)
  | design (error : LoadError)
  | structural (error : GraphError)
  | script (error : FileError)
  | missingDesign
  deriving DecidableEq

/-- The wording of a build error. -/
def BuildError.message : BuildError → String
  | config error => "config error: " ++ error.message "RON"
  | design error => "design error: " ++ error.message "JSON"
  | structural error => "structural error: " ++ error.message
  | script error => "IO error: " ++ error.message
  | missingDesign => "no design document was provided"

/-- What a story is put together from. -/
structure Sources where
  config : Option Config := none
  configPath : Option String := none
  design : Option Design := none
  designPath : Option String := none
  script : Option String := none
  scriptPath : Option String := none

/-- A story with a valid graph. The anomalies are those of the script that it was built with. -/
structure Engine where
  config : Config
  graph : Graph
  script : Script
  anomalies : List Anomaly

/-- Reads a file and then its text. -/
def load {α : Type} (files : Files) (path : String) (parse : String → Option α) : Except LoadError α :=
  match files.read path with
  | .error error => .error (.file error)
  | .ok text =>
    match parse text with
    | none => .error .malformed
    | some value => .ok value

namespace Sources

/-- The settings. -/
def findConfig (sources : Sources) (files : Files) : Except LoadError Config :=
  match sources.config, sources.configPath with
  | some config, _ => .ok config
  | none, some path => load files path Config.ofRon?
  | none, none => .ok {}

/-- The design. -/
def findDesign (sources : Sources) (files : Files) : Except BuildError Design :=
  match sources.design, sources.designPath with
  | some design, _ => .ok design
  | none, some path => (load files path Design.ofJson?).mapError .design
  | none, none => .error .missingDesign

/-- The text of the script; a story may have none. -/
def findScript (sources : Sources) (files : Files) : Except FileError (Option String) :=
  match sources.script, sources.scriptPath with
  | some text, _ => .ok (some text)
  | none, some path => (files.read path).map some
  | none, none => .ok none

/-- Puts a story together. -/
def build (sources : Sources) (files : Files) : Except BuildError Engine := do
  let config ← (sources.findConfig files).mapError .config
  let design ← sources.findDesign files
  let graph := Graph.ofDesign design config.root
  graph.validate.mapError .structural
  let text ← (sources.findScript files).mapError .script
  let (script, anomalies) := match text with
    | some text => Script.parse config.script text
    | none => (.empty, [])
  return { config, graph, script, anomalies }

end Sources

namespace Engine

/-- The memories of the story. -/
def memory (engine : Engine) : Except GraphError Memory :=
  Memory.ofGraph engine.graph engine.config.memory

/-- All nodes with the memories that they are written from, parents first. -/
def plan (engine : Engine) : Except GraphError (List PlanStep) :=
  engine.memory >>= Memory.plan

/-- The memory of a node. -/
def memoryOf (engine : Engine) (id : NodeId) : Except GraphError String :=
  engine.memory >>= fun memory => memory.text id

/-- A session at the root. -/
def newSession (engine : Engine) : Session :=
  .start engine.config.root

/-- The story as it is played with the given levels. -/
def stage (engine : Engine) (level : LevelLookup) : Stage :=
  { graph := engine.graph, script := engine.script, level }

/-- Gives a node a new body, and what is wrong with the body. -/
def replaceScript (engine : Engine) (id : NodeId) (body : String) :
    Except GraphError (Engine × List Anomaly) :=
  if engine.graph.contains id then
    let (list, anomalies) := Script.parseBody engine.config.script id body
    .ok ({ engine with script := engine.script.insert id list }, anomalies)
  else .error (.unknownNode id)

/-- Checks the script against the graph. -/
def lint (engine : Engine) : LintReport :=
  Storyline.lint engine.graph engine.script engine.config.root

end Engine

end Storyline
