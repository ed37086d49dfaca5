-- SUMMARY: What a command-line tool prints, writes and answers with.
import Storyline.Files

/-!
# Reports

A command-line tool works on text files. Its report holds all that can be seen of a run:
the exit code, what it printed to the two output streams, and the files as it left them.
-/

namespace Storyline.Console

/-- What can be seen of a run. -/
structure Report where
  code : Nat := 0
  output : String := ""
  errors : String := ""
  files : Files

/-- A line of output. -/
def line (text : String) : String :=
  text ++ "\n"

/-- Several lines of output. -/
def lines (texts : List String) : String :=
  String.join (texts.map line)

/-- A run that fails with a message. -/
def failure (files : Files) (errors : String) : Report :=
  { code := 1, errors, files }

end Storyline.Console
