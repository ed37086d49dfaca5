-- SUMMARY: How events and the state of a session look on a console.
import Storyline.Console.Report
import Storyline.Playback
import Storyline.Text.Escaped

/-!
# What a console shows

Events are shown as they are fired. The display of a session can be shown in full, as an indented record
with every text in quotes.
-/

namespace Storyline.Console

/-- A line that is spoken. -/
def spoken (speaker : Option String) (text : String) : String :=
  match speaker with
  | some name => line (name ++ ": " ++ text)
  | none => line ("  " ++ text)

/-- What is printed when an event is fired. -/
def shownEvent : Event → String
  | .scene name => line ("  [scene: " ++ name ++ "]")
  | .portrait (some portrait) =>
    line ("  [" ++ portrait.speaker ++ " looks " ++ portrait.expression ++ "]")
  | .portrait none => line "  [portrait cleared]"
  | .line speaker text => spoken speaker text
  | .choices texts =>
    lines ("" :: (texts.zipIdx 1).map fun (text, number) => "  " ++ toString number ++ ") " ++ text)
  | .finished node => lines ["", "--- The End (" ++ node ++ ") ---"]
  | .anomaly anomaly => line ("  (warning: " ++ anomaly.message ++ ")")

/-- What is printed when a call has ended. -/
def shownOutcome (outcome : Outcome) : String :=
  String.join (outcome.events.map shownEvent) ++
    match outcome.result with
    | .ok _ => ""
    | .error error => line ("ERROR: " ++ error.message)

/-! ## Records -/

/-- The lines in the middle of a block, one level deeper. -/
def deeper (texts : List String) : List String :=
  texts.map ("    " ++ ·)

/-- The lines with `front` before the first and a comma behind the last. -/
def item (front : String) : List String → List String
  | [] => []
  | [only] => [front ++ only ++ ","]
  | first :: rest => (front ++ first) :: (rest.dropLast ++ [rest.getLast?.getD "" ++ ","])

/-- A record with the lines of its fields. -/
def shownRecord (name : String) (fields : List (String × List String)) : List String :=
  [name ++ " \x7b"] ++ deeper (fields.flatMap fun (field, value) => item (field ++ ": ") value) ++
    ["\x7d"]

/-- An optional value with the lines of its content. -/
def shownOption (content : Option (List String)) : List String :=
  match content with
  | none => ["None"]
  | some value => ["Some("] ++ deeper (item "" value) ++ [")"]

/-- A text in quotes. -/
def shownText (text : String) : List String :=
  [Text.quoted false text]

/-- The display of a session. -/
def shownDisplay (display : Display) : List String :=
  shownRecord "DisplayedState"
    [("speaker", shownOption (display.speaker.map shownText)),
     ("text", shownOption (display.text.map shownText)),
     ("image", shownOption (display.portrait.map fun portrait =>
       shownRecord "Portrait"
         [("speaker", shownText portrait.speaker), ("expression", shownText portrait.expression)])),
     ("background", shownOption (display.background.map shownText))]

/-- Where a session stands. -/
def shownPosition (session : Session) : String :=
  "node=" ++ session.node ++ " ip=" ++ toString session.position ++ " state=" ++
    session.state.name ++ " open_conditions=" ++ toString session.conditions.length

end Storyline.Console
