/-
Inspection quotes: a string between double quotes, written so that it
can be read at a glance and back. A quote and a backslash take a
backslash, the four everyday controls have letters, and every other
character that would not show (`Text/Printable.lean`) is written by its
code point in braces.

A single quote is left alone: nothing in a double-quoted string needs
it escaped.
-/
import RuledList.Text.Hex
import RuledList.Text.Printable

namespace RuledList.Text

/-- A character as it stands inside inspection quotes. -/
def quotedChar (c : Char) : String :=
  match c with
  | '"' => "\\\""
  | '\\' => "\\\\"
  | '\n' => "\\n"
  | '\r' => "\\r"
  | '\t' => "\\t"
  | '\x00' => "\\0"
  | c =>
    if isPrintable c then c.toString
    else "\\u\x7b" ++ hex c.toNat ++ "\x7d"

/-- A string in inspection quotes. -/
def quoted (s : String) : String :=
  "\"" ++ String.join (s.toList.map quotedChar) ++ "\""

end RuledList.Text
