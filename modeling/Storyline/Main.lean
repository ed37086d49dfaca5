-- SUMMARY: The command line: three tools on real files and streams.
import Storyline.Console.Linter
import Storyline.Console.Player
import Storyline.Console.Scaffold

/-!
# Command line

`storyline <tool> <arguments>` runs one of the tools `script_linter`, `script_scaffold` and `playthrough`.
A tool works on the files that its arguments may mean; those that it changed are written back. What a tool
does is decided in its own module.
-/

namespace Storyline.CommandLine

/-- The names of what a path leads through, first to last, and of what it leads to. -/
def stations (path : String) : List String :=
  let steps := path.splitOn "/"
  let names := (List.range steps.length).map fun count =>
    ((steps.take (count + 1)).foldl Directory.enter (Files.origin path)).name
  names.filter fun name => name != "" && name != "/"

/-- Adds what the path leads through or to. -/
def look (files : Files) (path : String) : IO Files := do
  let here ← IO.currentDir
  let mut found := files
  for station in stations path do
    if ← (here / station).isDir then
      found := found.insert (station ++ "/") ""
    else if ← (here / station).pathExists then
      found := found.insert station (← IO.FS.readFile station)
  return found

/-- The files and directories that the words may mean. -/
def gather (words : List String) : IO Files :=
  words.foldlM look .empty

/-- Writes the files that have changed. -/
def writeBack (before after : Files) : IO Unit := do
  for (path, text) in after.entries do
    if before.get? path != some text then
      IO.FS.writeFile path text

/-- Shows a report and writes its files; gives the exit code. -/
def finish (before : Files) (report : Console.Report) : IO UInt32 := do
  (← IO.getStdout).putStr report.output
  (← IO.getStderr).putStr report.errors
  writeBack before report.files
  return report.code.toUInt32

/-- Does the commands of the input, one from each line, until one ends the game or the input ends. -/
partial def converse (game : Console.Player.Game) : IO Unit := do
  let output ← IO.getStdout
  output.putStr Console.Player.Game.prompt
  output.flush
  let text ← (← IO.getStdin).getLine
  if text.isEmpty then
    return
  let files ← gather (Console.Player.wordsFrom [] text.toList)
  let reply := game.perform files (.ofLine text)
  output.putStr reply.output
  writeBack files reply.files
  if !reply.ended then
    converse reply.game

/-- Runs the player. -/
def play (arguments : List String) : IO UInt32 := do
  let files ← gather arguments
  match Console.Player.start arguments files with
  | .done report => finish files report
  | .game game output =>
    (← IO.getStdout).putStr output
    converse game
    return 0

end Storyline.CommandLine

open Storyline CommandLine in
/-- Runs the tool that the first argument names. -/
def main : List String → IO UInt32
  | "script_linter" :: arguments => do
    let files ← gather arguments
    finish files (Console.Linter.run arguments files)
  | "script_scaffold" :: arguments => do
    let files ← gather arguments
    finish files (Console.Scaffold.run arguments files)
  | "playthrough" :: arguments => play arguments
  | _ => do
    IO.eprintln "Usage: storyline script_linter|script_scaffold|playthrough <arguments>"
    return 1
