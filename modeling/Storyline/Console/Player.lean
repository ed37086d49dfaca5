-- SUMMARY: The tool that plays a story on a console, by commands or by itself.
import Storyline.Console.Shown
import Storyline.Engine
import Storyline.Session.Stored
import Storyline.Text.Lines
import Storyline.Text.Lowercase

/-!
# The player

`playthrough --design <design.json> --script <script.txt>` plays a story. It reads one command from each
line of its input; with `--auto` it plays by itself and prints a summary. A `Game` is a story that is
being played; `Game.perform` does one command.
-/

namespace Storyline.Console.Player

/-! ## Arguments -/

def usage : List String :=
  ["Usage: playthrough --design <design.json> --script <script.txt>",
   "                   [--config <config.ron>] [--levels <levels.ron>]",
   "                   [--load <save.ron>] [--auto] [--seed <n>]"]

/-- What the arguments ask for. -/
structure Options where
  design : Option String := none
  script : Option String := none
  config : Option String := none
  levels : Option String := none
  save : Option String := none
  auto : Bool := false
  seed : Nat := 42

/-- Reads the arguments, first one first; gives the first one that is not known. An option that takes a
value must have one behind it, and a seed that is no number counts as the usual one. -/
def parse (options : Options) : List String → Except String Options
  | [] => .ok options
  | "--design" :: value :: rest => parse { options with design := some value } rest
  | "--script" :: value :: rest => parse { options with script := some value } rest
  | "--config" :: value :: rest => parse { options with config := some value } rest
  | "--levels" :: value :: rest => parse { options with levels := some value } rest
  | "--load" :: value :: rest => parse { options with save := some value } rest
  | "--seed" :: value :: rest =>
    parse { options with seed := (Text.word? value.toList).getD 42 } rest
  | "--auto" :: rest => parse { options with auto := true } rest
  | argument :: _ => .error argument

/-! ## Commands -/

/-- What the player can be told. -/
inductive Command where
  | next
  | quit
  | help
  | state
  | history
  | levels
  | set (arguments : List String)
  | save (path : Option String)
  | load (path : Option String)
  /-- Pick from the menu, counted from zero. -/
  | pick (index : Nat)
  | unknown (word : String)
  deriving DecidableEq

/-- The words of a line. `word` holds the characters of the word that was begun, last one first. -/
def wordsFrom (word : List Char) : List Char → List String
  | [] => if word.isEmpty then [] else [String.ofList word.reverse]
  | c :: rest =>
    if Text.isBlank c then
      if word.isEmpty then wordsFrom [] rest
      else String.ofList word.reverse :: wordsFrom [] rest
    else wordsFrom (c :: word) rest

/-- The command that a line gives. Its first word may be in any case; an empty line goes on. -/
def Command.ofLine (text : String) : Command :=
  match wordsFrom [] text.toList with
  | [] => .next
  | word :: arguments =>
    let word := Text.lower word
    if ["next", "n"].contains word then .next
    else if ["quit", "exit", "q"].contains word then .quit
    else if ["help", "h", "?"].contains word then .help
    else if word == "state" then .state
    else if word == "history" then .history
    else if word == "levels" then .levels
    else if word == "set" then .set arguments
    else if word == "save" then .save arguments.head?
    else if word == "load" then .load arguments.head?
    else
      match Text.word? word.toList with
      | some (index + 1) => .pick index
      | _ => .unknown word

def helpText : String :=
  lines
    ["Commands:",
     "  <enter> / next        advance past the current line",
     "  <n>                   pick menu option n",
     "  set <role> <level>    set a character level",
     "  levels                show character levels",
     "  state                 show position and display state",
     "  history               list choices made so far",
     "  save <path>           write the session to a RON save file",
     "  load <path>           resume a session from a RON save file",
     "  help                  this list",
     "  quit                  exit"]

/-! ## Games -/

/-- A story that is being played. -/
structure Game where
  engine : Engine
  levels : Levels
  session : Session

/-- What a command leads to. -/
structure Reply where
  game : Game
  files : Files
  output : String
  ended : Bool := false

namespace Game

def stage (game : Game) : Stage :=
  game.engine.stage game.levels.get?

/-- The roles that conditions in the script ask for. -/
def roles (game : Game) : NameSet :=
  .ofNames <| game.engine.script.entries.flatMap fun (_, list) => list.filterMap fun
    | .ifLevel role _ => some role
    | _ => none

/-- The line about a choice that was made. -/
def shownChoice (choice : ChoiceRecord) : String :=
  "  " ++ choice.node ++ ": \"" ++ choice.text ++ "\" -> " ++ choice.target.getD "(stay)"

/-- The line about a role. -/
def shownLevel (game : Game) (role : String) : String :=
  match game.levels.get? role with
  | some level => "  " ++ role ++ " = " ++ toString level
  | none => "  " ++ role ++ " (unset)"

/-- Shows the line that a loaded session has on display. -/
def shownLoaded (session : Session) : String :=
  line ("Loaded session at node " ++ session.node) ++ (session.display.text.map line).getD ""

/-- Does one command. -/
def perform (game : Game) (files : Files) (command : Command) : Reply :=
  let say (output : String) : Reply := { game, files, output }
  let play (outcome : Outcome) : Reply :=
    { game := { game with session := outcome.session }, files, output := shownOutcome outcome }
  match command with
  | .next => play (game.stage.advance game.session)
  | .pick index => play (game.stage.choose game.session index)
  | .quit => { say (line "Goodbye.") with ended := true }
  | .help => say helpText
  | .state => say (lines (shownDisplay game.session.display ++ [shownPosition game.session]))
  | .history =>
    say <| lines <|
      if game.session.history.isEmpty then ["No choices yet."]
      else game.session.history.map shownChoice
  | .levels => say (lines (game.roles.keys.map game.shownLevel))
  | .set (role :: numeral :: _) =>
    match Text.level? numeral.toList with
    | some level =>
      { say (line (role ++ " = " ++ toString level)) with
        game := { game with levels := game.levels.insert role level } }
    | none => say (line ("Invalid level: " ++ numeral))
  | .set _ => say (line "Usage: set <role> <level>")
  | .save (some path) =>
    match files.write path game.session.toRon with
    | .ok files => { say (line ("Saved to " ++ path)) with files }
    | .error error => say (line ("ERROR: IO error: " ++ error.message))
  | .save none => say (line "Usage: save <path>")
  | .load (some path) =>
    match Storyline.load files path Session.ofRon? with
    | .ok session => { say (shownLoaded session) with game := { game with session } }
    | .error error => say (line ("ERROR: " ++ error.message "RON"))
  | .load none => say (line "Usage: load <path>")
  | .unknown word => say (line ("Unknown command: " ++ word ++ ". Type 'help'."))

/-- The first lines of a game, and the game after them. A loaded session that shows a line or a menu is
not played on. -/
def opening (game : Game) : Game × String :=
  let greeting := lines ["Type 'help' for commands.", ""]
  let outcome := game.stage.step game.session
  ({ game with session := outcome.session }, greeting ++ shownOutcome outcome)

/-- What stands before every command. -/
def prompt : String := "play> "

/-- Does the commands of the given lines, until one of them ends the game or no line is left. -/
def converse (game : Game) (files : Files) : List String → Files × String
  | [] => (files, prompt)
  | text :: rest =>
    let reply := game.perform files (.ofLine text)
    if reply.ended then (reply.files, prompt ++ reply.output)
    else
      let (files, output) := converse reply.game reply.files rest
      (files, prompt ++ reply.output ++ output)

/-- The summary of a story that was played by itself. -/
def summary (played : Playthrough) : String :=
  String.join (played.lines.map fun (speaker, text) => spoken speaker text) ++
    lines
      (["", "--- Summary ---", "Path: " ++ " -> ".intercalate played.visited] ++
        played.choices.map (fun choice => "Chose \"" ++ choice.text ++ "\" at " ++ choice.node) ++
        [match played.ending with
         | some ending => "Ending: " ++ ending ++ " after " ++ toString played.steps ++ " steps"
         | none => "No ending reached after " ++ toString played.steps ++ " steps"] ++
        (if played.anomalies.isEmpty then []
         else [toString played.anomalies.length ++ " content warnings"]))

/-- Plays the story by itself. -/
def autoplay (game : Game) (seed : Nat) : Except PlayError String :=
  let (_, _, result) := (AutoPlayer.ofSeed seed.toUInt64).play game.stage game.session
  result.map summary

end Game

/-! ## Runs -/

/-- Loads what the arguments name. Fails with a message. -/
def prepare (options : Options) (design script : String) (files : Files) : Except String Game := do
  let sources : Sources :=
    { designPath := some design, scriptPath := some script, configPath := options.config }
  let engine ← (sources.build files).mapError fun error => "ERROR: " ++ error.message
  let levels ← match options.levels with
    | some path => (Storyline.load files path Levels.ofRon?).mapError fun error =>
        "ERROR loading levels: " ++ error.message "RON"
    | none => .ok .empty
  let session ← match options.save with
    | some path => (Storyline.load files path Session.ofRon?).mapError fun error =>
        "ERROR loading save: " ++ error.message "RON"
    | none => .ok engine.newSession
  return { engine, levels, session }

/-- The first line about a story. -/
def loadedLine (engine : Engine) : String :=
  line ("Loaded " ++ toString engine.graph.size ++ " nodes (" ++ toString engine.script.size ++
    " scripted), " ++ toString engine.anomalies.length ++ " parse warnings")

/-- What the player does with its arguments: it ends at once, or a game begins. -/
inductive Start where
  | done (report : Report)
  | game (game : Game) (output : String)

/-- Begins a run. -/
def start (arguments : List String) (files : Files) : Start :=
  match arguments with
  | [] => .done { output := lines usage, files }
  | first :: _ =>
    if first == "--help" || first == "-h" then .done { output := lines usage, files }
    else
      match parse {} arguments with
      | .error argument =>
        .done { failure files (line ("Unknown argument: " ++ argument)) with output := lines usage }
      | .ok options =>
        match options.design, options.script with
        | some design, some script =>
          match prepare options design script files with
          | .error message => .done (failure files (line message))
          | .ok game =>
            let loaded := loadedLine game.engine
            if options.auto then
              match game.autoplay options.seed with
              | .ok text => .done { output := loaded ++ text, files }
              | .error error =>
                .done { failure files (line ("ERROR: " ++ error.message)) with output := loaded }
            else
              let (game, output) := game.opening
              .game game (loaded ++ output)
        | _, _ =>
          .done { failure files (line "Error: --design and --script are required") with
            output := lines usage }

/-- Runs the player on the given input. -/
def run (arguments : List String) (files : Files) (input : String) : Report :=
  match start arguments files with
  | .done report => report
  | .game game output =>
    let (files, rest) := game.converse files ((Text.lines input.toList).map String.ofList)
    { output := output ++ rest, files }

end Storyline.Console.Player
