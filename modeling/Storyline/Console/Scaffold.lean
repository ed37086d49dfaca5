-- SUMMARY: The tool that writes a skeleton script for a design document.
import Storyline.Compose
import Storyline.Console.Report
import Storyline.Engine
import Storyline.Text.Lines

/-!
# The script scaffold

`script_scaffold --design <design.json> --output <script.txt> [--config <config.ron>] [--plan]` writes a
script in which the narrator tells every summary and the edges are the navigation. With `--plan` it also
prints the memory of every node.
-/

namespace Storyline.Console.Scaffold

def usage : String :=
  "Usage: script_scaffold --design <design.json> --output <script.txt> " ++
    "[--config <config.ron>] [--plan]"

/-- What the arguments ask for. -/
structure Options where
  design : Option String := none
  output : Option String := none
  config : Option String := none
  plan : Bool := false

/-- What the arguments come to. -/
inductive Request where
  | run (options : Options)
  | help
  | unknown (argument : String)

/-- Reads the arguments, first one first. An option that takes a value must have one behind it. -/
def parse (options : Options) : List String → Request
  | [] => .run options
  | "--design" :: value :: rest => parse { options with design := some value } rest
  | "--output" :: value :: rest => parse { options with output := some value } rest
  | "--config" :: value :: rest => parse { options with config := some value } rest
  | "--plan" :: rest => parse { options with plan := true } rest
  | argument :: _ =>
    if argument == "--help" || argument == "-h" then .help else .unknown argument

/-- One step of the plan, numbered from one. -/
def planLines (engine : Engine) (step : PlanStep) (number : Nat) : List String :=
  let merge := if engine.graph.isMergePoint step.node then " (merge)" else ""
  ["", toString number ++ ". " ++ step.node ++ merge ++ ": " ++ step.summary] ++
    (Text.lines step.memory.toList).map fun text => "   | " ++ String.ofList text

/-- The plan with its heading. -/
def planText (engine : Engine) (plan : List PlanStep) : String :=
  lines (["", "=== Generation Plan ==="] ++
    ((plan.zipIdx 1).map fun (step, number) => planLines engine step number).flatten)

/-- Writes the skeleton of a story. -/
def write (options : Options) (output : String) (engine : Engine) (files : Files) : Report :=
  let narrator := engine.config.script.narrators.head?.getD "narrator"
  match files.write output (Compose.skeleton engine.graph narrator) with
  | .error error => failure files (line ("Error writing " ++ output ++ ": " ++ error.message))
  | .ok files =>
    let wrote :=
      line ("Wrote skeleton for " ++ toString engine.graph.size ++ " nodes to " ++ output)
    if options.plan then
      match engine.plan with
      | .ok plan => { output := wrote ++ planText engine plan, files }
      | .error error =>
        { code := 1
          output := wrote
          errors := line ("Error building generation plan: " ++ error.message)
          files }
    else { output := wrote, files }

/-- Runs the scaffold. -/
def run (arguments : List String) (files : Files) : Report :=
  match parse {} arguments with
  | .help => { output := line usage, files }
  | .unknown argument => failure files (line ("Unknown argument: " ++ argument))
  | .run options =>
    match options.design, options.output with
    | none, _ => failure files (lines ["Error: --design is required", usage])
    | some _, none => failure files (lines ["Error: --output is required", usage])
    | some design, some output =>
      let sources : Sources := { designPath := some design, configPath := options.config }
      match sources.build files with
      | .error error => failure files (line ("Error loading design: " ++ error.message))
      | .ok engine => write options output engine files

end Storyline.Console.Scaffold
