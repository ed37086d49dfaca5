-- SUMMARY: The rules by which one line of a script is read as an instruction.
import Storyline.Config
import Storyline.Instruction
import Storyline.Text.Blank
import Storyline.Text.Numeral
import Storyline.Text.Piece

/-!
# Line rules

Each line of a script holds at most one instruction. It is written as a tag (`<scene>Hall</scene>`), as
a directive in brackets whose word may be in any case (`[SCENE: Hall]`), or as plain dialogue
(`Mio: Hello`). `LineRule.precedence` is the order in which the rules are tried.

Inside an open menu there is one more form, the numbered offer `1. Go home -> home`, read by
`numberedOffer?`.
-/

namespace Storyline

open Text

/-- The ways to write an instruction in a line. -/
inductive LineRule where
  /-- `<scene>name</scene>` and `[SCENE: name]` -/
  | scene
  /-- `[IF: role >= level]`, `[ELSE]` and `[ENDIF]` -/
  | conditional
  /-- `<image id="speaker">expression</image>` and `[IMAGE: speaker-expression]` -/
  | image
  /-- `<content id="speaker">text</content>` -/
  | content
  /-- `[JUMP: node]` -/
  | jump
  /-- `[CHOICE]` and `<choice target="node">text</choice>` -/
  | choice
  /-- `speaker: text` -/
  | plainDialogue
  deriving DecidableEq, Inhabited

/-- The order in which the rules are tried. -/
def LineRule.precedence : List LineRule :=
  [.scene, .conditional, .image, .content, .jump, .choice, .plainDialogue]

namespace Script

/-! ## Delimited fields -/

/-- The field between two delimiters, without its outer blanks. A field holds no line feed. Where there
are only blanks, the last of them that is no line feed is the field. -/
def field? (inner : List Char) : Option (List Char) :=
  match trim inner with
  | [] => (inner.reverse.find? (· != '\n')).map fun c => [c]
  | c :: rest => if (c :: rest).contains '\n' then none else some (c :: rest)

/-- What stands in a directive, between `[word:` and the closing bracket. -/
def directive? (word : String) (line : List Char) : Option (List Char) := do
  let rest ← after? ['['] line
  let rest ← afterCaseless? word.toList rest
  let rest ← after? [':'] rest
  before? [']'] rest

/-- Is the line the directive `[word]`? -/
def isMarker (word : String) (line : List Char) : Bool :=
  (do
    let rest ← after? ['['] line
    let rest ← afterCaseless? word.toList rest
    after? [']'] rest) == some []

/-- The value of the attribute at the front of `s` and what follows its closing quote. At least one
blank stands before the attribute. -/
def attribute? (name : String) (s : List Char) : Option (List Char × List Char) := do
  let first ← s.head?
  if isBlank first then
    let rest ← after? name.toList (trimLeft s)
    let rest ← after? ['=', '"'] rest
    let value := rest.takeWhile (· != '"')
    let rest ← after? ['"'] (rest.dropWhile (· != '"'))
    some (value, rest)
  else none

/-- The parts of the tag `<name id="id">body</name>`. -/
def tagged? (name : String) (line : List Char) : Option (List Char × List Char) := do
  let rest ← after? ('<' :: name.toList) line
  let (id, rest) ← attribute? "id" rest
  let rest ← after? ['>'] rest
  let body ← before? ("</".toList ++ name.toList ++ ['>']) rest
  some (id, body)

/-! ## The instructions that fields stand for -/

/-- Showing a portrait, unless the expression is one that takes it away. -/
def portraitOf (config : ScriptConfig) (speaker expression : List Char) : Instruction :=
  let expression := String.ofList expression
  if config.isClearToken expression then .clearPortrait
  else .portrait (String.ofList speaker) expression

/-- A line of the speaker, or of the narrator where the speaker names one. -/
def lineOf (config : ScriptConfig) (speaker text : List Char) : Instruction :=
  let speaker := String.ofList speaker
  if config.isNarrator speaker then .narration (String.ofList text)
  else .dialogue speaker (String.ofList text)

/-! ## Scenes, conditions, portraits, lines and jumps -/

/-- A scene, as a tag or as a directive. -/
def scene? (line : List Char) : Option Instruction :=
  let inner := match after? "<scene>".toList line with
    | some rest => before? "</scene>".toList rest
    | none => directive? "scene" line
  (inner.bind field?).map fun name => .scene (String.ofList name)

/-- The role and the level of a condition `role >= level`. The level is the integer at the end; what
stands before the last `>=` is the role. -/
def threshold? (inner : List Char) : Option (List Char × Int) := do
  let reversed := (trimRight inner).reverse
  let digits := (reversed.takeWhile isDigit).reverse
  let rest := reversed.dropWhile isDigit
  let (numeral, rest) := match rest with
    | '-' :: rest => ('-' :: digits, rest)
    | _ => (digits, rest)
  let rest ← after? ['=', '>'] (trimLeft rest)
  let role ← field? rest.reverse
  let level ← level? numeral
  some (role, level)

/-- A condition, its other part or its end. The two words of `[END IF]` may have blanks between them. -/
def conditional? (line : List Char) : Option Instruction :=
  match directive? "if" line with
  | some inner => (threshold? inner).map fun (role, level) => .ifLevel (String.ofList role) level
  | none =>
    if isMarker "else" line then some .otherwise
    else
      (do
        let rest ← after? ['['] line
        let rest ← afterCaseless? "end".toList rest
        let rest ← afterCaseless? "if".toList (trimLeft rest)
        let [] ← after? [']'] rest | none
        some .endIf)

/-- The speaker and the expression of `speaker-expression`. Where no expression is given it is
`neutral`. -/
def portraitParts (value : List Char) : List Char × List Char :=
  match value.dropWhile (· != '-') with
  | _ :: expression => (trim (value.takeWhile (· != '-')), trim expression)
  | [] => (value, if value.isEmpty then [] else "neutral".toList)

/-- A portrait, as a tag or as a directive. An empty directive or a clearing expression takes it away. -/
def image? (config : ScriptConfig) (line : List Char) : Option Instruction :=
  match tagged? "image" line with
  | some (id, body) =>
    if body.contains '<' then none else some (portraitOf config (trim id) (trim body))
  | none => do
    let inner ← directive? "image" line
    let value := trim inner
    if value.contains '\n' then none
    else
      let (speaker, expression) := portraitParts value
      if speaker.isEmpty then some .clearPortrait else some (portraitOf config speaker expression)

/-- A line of a speaker or of the narrator. Neither the speaker nor the text may be blank. -/
def content? (config : ScriptConfig) (line : List Char) : Option Instruction := do
  let (id, body) ← tagged? "content" line
  let speaker := trim id
  let text := trim body
  if body.contains '\n' || speaker.isEmpty || text.isEmpty then none
  else some (lineOf config speaker text)

/-- A jump to the node that is named. -/
def jump? (line : List Char) : Option Instruction :=
  ((directive? "jump" line).bind field?).map fun target => .jump (String.ofList target)

/-! ## Offers -/

/-- An offer written as a tag, with or without a target; `index` is the number it gets. -/
def taggedOffer? (index : Nat) (line : List Char) : Option Instruction := do
  let rest ← after? "<choice".toList line
  let (target, rest) := match attribute? "target" rest with
    | some (value, rest) => (trim value, rest)
    | none => ([], rest)
  let rest ← after? ['>'] (trimLeft rest)
  let body ← before? "</choice>".toList rest
  if body.isEmpty || body.contains '\n' then none
  else
    some (.offer index (String.ofList (trim body))
      (if target.isEmpty then none else some (String.ofList target)))

/-- The target that an arrow at the front of `s` points to, if the target is one word that reaches to
the end. -/
def arrowTarget? (s : List Char) : Option (List Char) := do
  let rest ← match trimLeft s with
    | '-' :: '>' :: rest => some rest
    | '→' :: rest => some rest
    | _ => none
  let target := trimLeft rest
  if target.isEmpty || target.any isBlank then none else some target

/-- The text and the target of an offer. The text has at least one character and ends at the first
arrow with a target; without such an arrow it is everything. -/
def splitTarget : List Char → List Char × Option (List Char)
  | [] => ([], none)
  | c :: rest =>
    match arrowTarget? rest with
    | some target => ([c], some target)
    | none =>
      let (text, target) := splitTarget rest
      (c :: text, target)

/-- An offer written with its number in front: `1. text`, `1) text -> node`. The line is trimmed and
holds no line feed. -/
def numberedOffer? (line : List Char) : Option Instruction := do
  let index ← digits? 10 (line.takeWhile isDigit)
  let point :: rest := trimLeft (line.dropWhile isDigit) | none
  if fitsWord index && ['.', ')', '、', '．'].contains point then
    let body := trimLeft rest
    if body.isEmpty then none
    else
      let (text, target) := splitTarget body
      some (.offer index (String.ofList (trim text)) (target.map String.ofList))
  else none

/-- The marker that opens a menu, or an offer written as a tag. -/
def choice? (nextOffer : Nat) (line : List Char) : Option Instruction :=
  if isMarker "choice" line then some .openMenu else taggedOffer? nextOffer line

/-! ## Plain dialogue -/

/-- Does this read as a name? It is short and looks neither like a mark-up nor like a heading, a list
entry, an arrow or an address. -/
def isPlausibleSpeaker (config : ScriptConfig) (speaker : List Char) : Bool :=
  match speaker with
  | [] => false
  | first :: _ =>
    !(['[', '<', '#', '=', '*', '-'].contains first) && !isDigit first &&
      !occurs "->".toList speaker && !occurs "http".toList speaker &&
      speaker.length ≤ config.maxSpeakerLength

/-- The quotation marks that may stand around a spoken text. -/
def quotationMarks : List (Char × Char) :=
  [('"', '"'), ('“', '”'), ('「', '」'), ('『', '』')]

/-- The text without the quotation marks around it. -/
def unquote (text : List Char) : List Char :=
  match quotationMarks.findSome? fun (opening, closing) =>
      (after? [opening] text).bind (before? [closing]) with
  | some inner => trim inner
  | none => text

/-- Is this a colon, ASCII or full width? -/
def isColon (c : Char) : Bool :=
  c == ':' || c == '：'

/-- A line written as `speaker: text`, cut at its first colon. -/
def plainDialogue? (config : ScriptConfig) (line : List Char) : Option Instruction := do
  let _ :: rest := line.dropWhile (!isColon ·) | none
  let speaker := trim (line.takeWhile (!isColon ·))
  let spoken := trimLeft rest
  let text := unquote (trim spoken)
  if !isPlausibleSpeaker config speaker || spoken.contains '\n' || text.isEmpty then none
  else some (lineOf config speaker text)

end Script

/-- Reads a line by one rule; `nextOffer` is the number that an offer without one gets. -/
def LineRule.read? (rule : LineRule) (config : ScriptConfig) (nextOffer : Nat) (line : List Char) :
    Option Instruction :=
  match rule with
  | scene => Script.scene? line
  | conditional => Script.conditional? line
  | image => Script.image? config line
  | content => Script.content? config line
  | jump => Script.jump? line
  | choice => Script.choice? nextOffer line
  | plainDialogue => Script.plainDialogue? config line

end Storyline
