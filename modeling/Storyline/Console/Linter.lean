-- SUMMARY: The tool that checks a script against its design document.
import Storyline.Console.Report
import Storyline.Engine

/-!
# The script linter

`script_linter <design.json> <script.txt> [--config <config.ron>]` prints what is wrong with the lines of
a script and with the story as a whole. It fails if the story has errors.
-/

namespace Storyline.Console.Linter

def usage : String :=
  "Usage: script_linter <design.json> <script.txt> [--config <config.ron>]"

/-- The path of the settings among the arguments behind the first two. The last one counts; other
arguments are passed over. -/
def configPath? : List String → Option String
  | [] => none
  | [_] => none
  | argument :: value :: rest =>
    if argument == "--config" then (configPath? rest).or (some value)
    else configPath? (value :: rest)

/-- What the linter says about a story. -/
def findings (engine : Engine) : String :=
  let report := engine.lint
  let { errors, warnings } := report
  let clean := report.isClean && engine.anomalies.isEmpty
  lines
    (["", "=== Script Lint Report ===", ""] ++
      (if clean then ["All checks passed!"] else []) ++
      engine.anomalies.map (fun anomaly => "PARSE: " ++ anomaly.message) ++
      warnings.map (fun warning => "WARNING: " ++ warning.message) ++
      errors.map (fun error => "ERROR: " ++ error.message) ++
      ["",
       "Summary: " ++ toString errors.length ++ " errors, " ++ toString warnings.length ++
         " warnings, " ++ toString engine.anomalies.length ++ " parse anomalies"])

/-- Runs the linter. -/
def run (arguments : List String) (files : Files) : Report :=
  match arguments with
  | design :: script :: rest =>
    if design == "--help" || design == "-h" then { output := line usage, files }
    else
      let sources : Sources :=
        { designPath := some design, scriptPath := some script, configPath := configPath? rest }
      match sources.build files with
      | .error error => failure files (line ("ERROR: Failed to load story: " ++ error.message))
      | .ok engine =>
        let loaded :=
          "Loaded " ++ toString engine.graph.size ++ " nodes, " ++
            toString engine.graph.edges.length ++ " edges, " ++ toString engine.script.size ++
            " scripted nodes"
        { code := if engine.lint.errors.isEmpty then 0 else 1
          output := line loaded ++ findings engine
          files }
  | _ => { output := line usage, files }

end Storyline.Console.Linter
