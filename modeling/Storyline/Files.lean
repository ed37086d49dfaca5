-- SUMMARY: A directory of text files, and what goes wrong when one is read or written.
import Storyline.SortedMap

/-!
# Files

The command-line tools read and write text files by their paths. Files are kept as a map from names to
texts, where a name is a path without empty steps and dots, from the working directory or from the top
of all directories. A directory is there if some name in the map leads through it; a name that ends in a
slash stands for an empty one. The working directory and those above it are always there.

A path is followed step by step: an empty step and a single dot stay where they are, two dots go up, and
every other step goes down and needs something that has its name.
-/

namespace Storyline

/-- Why a file cannot be read or written. -/
inductive FileError where
  | notFound
  | notADirectory
  | isADirectory
  | nameTooLong
  | nulInPath
  deriving DecidableEq

/-- The wording of a file error. -/
def FileError.message : FileError → String
  | notFound => "No such file or directory (os error 2)"
  | notADirectory => "Not a directory (os error 20)"
  | isADirectory => "Is a directory (os error 21)"
  | nameTooLong => "File name too long (os error 36)"
  | nulInPath => "file name contained an unexpected NUL byte"

/-! ## Directories -/

/-- A directory, by the way to it: the steps that lead there, latest first. The way begins at the top of
all directories or at the working directory; from there it may go up before it goes down. -/
structure Directory where
  fromTop : Bool
  way : List String

namespace Directory

/-- The directory above. Nothing is above the top. -/
def up (here : Directory) : Directory :=
  match here.way with
  | [] => if here.fromTop then here else { here with way := [".."] }
  | ".." :: _ => { here with way := ".." :: here.way }
  | _ :: way => { here with way }

/-- Does the step go down to something that has a name? -/
def goesDown (step : String) : Bool :=
  step != "" && step != "." && step != ".."

/-- Where one step of a path leads. -/
def enter (here : Directory) (step : String) : Directory :=
  if goesDown step then { here with way := step :: here.way }
  else if step == ".." then here.up
  else here

/-- The name of what the way leads to. -/
def name (here : Directory) : String :=
  (if here.fromTop then "/" else "") ++ "/".intercalate here.way.reverse

end Directory

/-! ## Files -/

/-- Text files, by their names. -/
abbrev Files := SortedMap String

namespace Files

/-- What a path leads to. -/
inductive Place where
  | file (name : String)
  | directory
  /-- Nothing is there yet, but the directory is there. -/
  | free (name : String)

/-- The number of bytes that a step may have. -/
def stepLimit : Nat := 255

/-- The number of bytes that a path stays below. -/
def pathLimit : Nat := 4096

/-- Does some name lead through the directory? -/
def hasDirectory (files : Files) (name : String) : Bool :=
  files.keys.any (·.startsWith (name ++ "/"))

/-- Follows the steps of a path from the directory `here` on. -/
def follow (files : Files) (here : Directory) : List String → Except FileError Place
  | [] => .ok .directory
  | step :: rest =>
    let there := here.enter step
    if !Directory.goesDown step then follow files there rest
    else if stepLimit < step.utf8ByteSize then .error .nameTooLong
    else if files.contains there.name then
      if rest.isEmpty then .ok (.file there.name) else .error .notADirectory
    else if files.hasDirectory there.name then follow files there rest
    else if rest.isEmpty then .ok (.free there.name)
    else .error .notFound

/-- Where a path begins. -/
def origin (path : String) : Directory :=
  { fromTop := path.startsWith "/", way := [] }

/-- The steps of a path, if it can be followed at all. A path that ends in a slash has an empty last
step, so that it leads to a directory. -/
def steps (path : String) : Except FileError (List String) :=
  if path.toList.contains '\x00' then .error .nulInPath
  else if path.isEmpty then .error .notFound
  else if pathLimit ≤ path.utf8ByteSize then .error .nameTooLong
  else .ok (path.splitOn "/")

/-- Reads a file. -/
def read (files : Files) (path : String) : Except FileError String := do
  match ← files.follow (origin path) (← steps path) with
  | .file name => .ok ((files.get? name).getD "")
  | .directory => .error .isADirectory
  | .free _ => .error .notFound

/-- The steps of a path that a file is to be written to. What has a slash behind it can only be a
directory, so there the last step that is not empty does not count. -/
def stepsToWrite (path : String) : Except FileError (List String) := do
  let steps ← steps path
  return if path.endsWith "/" then (steps.filter (· != "")).dropLast ++ [""] else steps

/-- Writes a file, in place of any older one. -/
def write (files : Files) (path text : String) : Except FileError Files := do
  match ← files.follow (origin path) (← stepsToWrite path) with
  | .file name => .ok (files.insert name text)
  | .free name => .ok (files.insert name text)
  | .directory => .error .isADirectory

end Files

end Storyline
