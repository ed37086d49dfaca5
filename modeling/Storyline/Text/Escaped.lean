-- SUMMARY: Writing a character so that every reader can see it.
import Storyline.Text.Extending
import Storyline.Text.Numeral
import Storyline.Text.Printable

/-!
# Escaped characters

A backslash form stands for each character that would end a quoted text, break a line or not be seen.
-/

namespace Storyline.Text

/-- The escaped form of a character inside double quotes. The single quote is escaped only where the
format asks for it. -/
def escaped (singleQuote : Bool) (c : Char) : List Char :=
  match c with
  | '\x00' => ['\\', '0']
  | '\t' => ['\\', 't']
  | '\r' => ['\\', 'r']
  | '\n' => ['\\', 'n']
  | '"' => ['\\', '"']
  | '\\' => ['\\', '\\']
  | '\'' => if singleQuote then ['\\', '\''] else ['\'']
  | _ =>
    if isExtending c || !isPrintable c then ['\\', 'u', '\x7b'] ++ hex c.toNat ++ ['\x7d'] else [c]

/-- The text in double quotes, every character escaped. -/
def quoted (singleQuote : Bool) (s : String) : String :=
  String.ofList ('"' :: s.toList.flatMap (escaped singleQuote) ++ ['"'])

end Storyline.Text
