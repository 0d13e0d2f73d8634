/-
String literals of a JSON text. Only what the grammar demands is
escaped: the quote, the backslash, and the characters below U+0020,
five of which have letters. Everything else is written as it is, a
slash, U+007F and the line separators included.
-/
import RuledList.Text.Hex

namespace RuledList.Text

/-- A character as it stands inside a JSON string. -/
def escapedChar (c : Char) : List Char :=
  match c with
  | '"' => ['\\', '"']
  | '\\' => ['\\', '\\']
  | '\x08' => ['\\', 'b']
  | '\x0c' => ['\\', 'f']
  | '\n' => ['\\', 'n']
  | '\r' => ['\\', 'r']
  | '\t' => ['\\', 't']
  | c =>
    if c.toNat < 0x20 then
      ['\\', 'u', '0', '0', hexDigit (c.toNat / 16),
        hexDigit (c.toNat % 16)]
    else [c]

/-- A string as a JSON literal, quotes included. -/
def escaped (s : String) : String :=
  "\"" ++ String.ofList (s.toList.flatMap escapedChar) ++ "\""

end RuledList.Text
