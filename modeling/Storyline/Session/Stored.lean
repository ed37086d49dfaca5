-- SUMMARY: Saving a session as text, and loading it.
import Storyline.Json.Reader
import Storyline.Ron.Reader
import Storyline.Ron.Writer
import Storyline.Session

/-!
# Stored sessions

A saved session is a RON text; it can be read from JSON as well. All fields are required, except the
optional ones and the roles that were reported.
-/

namespace Storyline

open Data

/-! ## Shapes -/

def Portrait.shape : Shape :=
  .record "Portrait" <|
    .cons "speaker" .required .text <|
    .cons "expression" .required .text <|
    .nil

def Display.shape : Shape :=
  .record "DisplayedState" <|
    .cons "speaker" .omittable (.optional .text) <|
    .cons "text" .omittable (.optional .text) <|
    .cons "image" .omittable (.optional Portrait.shape) <|
    .cons "background" .omittable (.optional .text) <|
    .nil

def OpenCondition.shape : Shape :=
  .record "ConditionFrame" <|
    .cons "opened_at" .required .word <|
    .cons "branch" .required (.name ["Then", "Else"]) <|
    .nil

def MenuOption.shape : Shape :=
  .record "MenuOption" <|
    .cons "text" .required .text <|
    .cons "target" .omittable (.optional .text) <|
    .nil

def Menu.shape : Shape :=
  .record "ChoiceMenu" <|
    .cons "options" .required (.list MenuOption.shape) <|
    .cons "resume_at" .required .word <|
    .nil

def ChoiceRecord.shape : Shape :=
  .record "ChoiceRecord" <|
    .cons "node" .required .text <|
    .cons "text" .required .text <|
    .cons "target" .omittable (.optional .text) <|
    .nil

def Session.shape : Shape :=
  .record "PlaybackSession" <|
    .cons "current_node" .required .text <|
    .cons "instruction_pointer" .required .word <|
    .cons "condition_stack" .required (.list OpenCondition.shape) <|
    .cons "displayed" .required Display.shape <|
    .cons "state" .required (.name ["Running", "AwaitingChoice", "Finished"]) <|
    .cons "awaiting_advance" .required .bool <|
    .cons "menu" .omittable (.optional Menu.shape) <|
    .cons "history" .required (.list ChoiceRecord.shape) <|
    .cons "visited" .required (.list .text) <|
    .cons "unknown_roles" .defaulted (.list .text) <|
    .nil

/-! ## Reading -/

def Portrait.ofValue? (value : Value) : Option Portrait := do
  let speaker ← value.required? "speaker" Value.toText?
  let expression ← value.required? "expression" Value.toText?
  some { speaker, expression }

def Display.ofValue? (value : Value) : Option Display := do
  let speaker ← value.defaulted? "speaker" none (Value.toOption? Value.toText?)
  let text ← value.defaulted? "text" none (Value.toOption? Value.toText?)
  let portrait ← value.defaulted? "image" none (Value.toOption? Portrait.ofValue?)
  let background ← value.defaulted? "background" none (Value.toOption? Value.toText?)
  some { speaker, text, portrait, background }

def OpenCondition.ofValue? (value : Value) : Option OpenCondition := do
  let position ← value.required? "opened_at" Value.toNat?
  let branch ← value.required? "branch" fun name => name.toName?.bind Branch.ofName?
  some { position, branch }

def MenuOption.ofValue? (value : Value) : Option MenuOption := do
  let text ← value.required? "text" Value.toText?
  let target ← value.defaulted? "target" none (Value.toOption? Value.toText?)
  some { text, target }

def Menu.ofValue? (value : Value) : Option Menu := do
  let options ← value.required? "options" (Value.toList? MenuOption.ofValue?)
  let resumeAt ← value.required? "resume_at" Value.toNat?
  some { options, resumeAt }

def ChoiceRecord.ofValue? (value : Value) : Option ChoiceRecord := do
  let node ← value.required? "node" Value.toText?
  let text ← value.required? "text" Value.toText?
  let target ← value.defaulted? "target" none (Value.toOption? Value.toText?)
  some { node, text, target }

def Session.ofValue? (value : Value) : Option Session := do
  let node ← value.required? "current_node" Value.toText?
  let position ← value.required? "instruction_pointer" Value.toNat?
  let conditions ← value.required? "condition_stack" (Value.toList? OpenCondition.ofValue?)
  let display ← value.required? "displayed" Display.ofValue?
  let state ← value.required? "state" fun name => name.toName?.bind PlayState.ofName?
  let awaitingAdvance ← value.required? "awaiting_advance" Value.toBool?
  let menu ← value.defaulted? "menu" none (Value.toOption? Menu.ofValue?)
  let history ← value.required? "history" (Value.toList? ChoiceRecord.ofValue?)
  let visited ← value.required? "visited" (Value.toList? Value.toText?)
  let unknownRoles ← value.defaulted? "unknown_roles" [] (Value.toList? Value.toText?)
  some
    { node, position, conditions := conditions.reverse, display, state, awaitingAdvance, menu
      choices := history.reverse
      trail := visited.reverse
      unknownRoles := NameSet.ofNames unknownRoles }

/-! ## Writing -/

def Portrait.toValue (portrait : Portrait) : Value :=
  .record [("speaker", .text portrait.speaker), ("expression", .text portrait.expression)]

def Display.toValue (display : Display) : Value :=
  .record
    [("speaker", .ofOption .text display.speaker),
     ("text", .ofOption .text display.text),
     ("image", .ofOption Portrait.toValue display.portrait),
     ("background", .ofOption .text display.background)]

def OpenCondition.toValue (condition : OpenCondition) : Value :=
  .record [("opened_at", .number condition.position), ("branch", .name condition.branch.name)]

def MenuOption.toValue (option : MenuOption) : Value :=
  .record [("text", .text option.text), ("target", .ofOption .text option.target)]

def Menu.toValue (menu : Menu) : Value :=
  .record
    [("options", .list (menu.options.map MenuOption.toValue)),
     ("resume_at", .number menu.resumeAt)]

def ChoiceRecord.toValue (choice : ChoiceRecord) : Value :=
  .record
    [("node", .text choice.node),
     ("text", .text choice.text),
     ("target", .ofOption .text choice.target)]

def Session.toValue (session : Session) : Value :=
  .record
    [("current_node", .text session.node),
     ("instruction_pointer", .number session.position),
     ("condition_stack", .list (session.conditions.reverse.map OpenCondition.toValue)),
     ("displayed", session.display.toValue),
     ("state", .name session.state.name),
     ("awaiting_advance", .bool session.awaitingAdvance),
     ("menu", .ofOption Menu.toValue session.menu),
     ("history", .list (session.history.map ChoiceRecord.toValue)),
     ("visited", .list (session.visited.map .text)),
     ("unknown_roles", .list (session.unknownRoles.keys.map .text))]

namespace Session

/-- The text of a saved session. -/
def toRon (session : Session) : String :=
  Ron.pretty session.toValue

/-- Loads a session from its saved text. -/
def ofRon? (text : String) : Option Session :=
  (Ron.read? shape text).bind ofValue?

/-- Reads a session from a JSON tree. -/
def ofJson? (tree : Json) : Option Session :=
  (tree.fit? shape).bind ofValue?

end Session

end Storyline
