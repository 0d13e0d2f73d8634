/-
How a text is spelled as a string literal: in inspection quotes, but
U+0000 before an octal digit takes two digits itself, lest it be
taken for a longer number.
-/
import RuledList.Text.Quoted
import RuledList.View.Token.Basic

namespace RuledList.View

/-- U+0000 as it is spelled before the characters `rest`. -/
def nulSpelling (rest : List Char) : String :=
  match rest with
  | d :: _ => if '0' ≤ d ∧ d ≤ '7' then "\\x00" else "\\0"
  | [] => "\\0"

/-- The inside of the spelling of a text. -/
def spelledChars : List Char → String
  | [] => ""
  | '\x00' :: rest => nulSpelling rest ++ spelledChars rest
  | c :: rest => Text.quotedChar c ++ spelledChars rest

/-- The spelling of a text as a string literal. -/
def spelling (s : String) : String :=
  "\"" ++ spelledChars s.toList ++ "\""

/-- A text as a string literal token. -/
def textLiteral (s : String) : Token := .literal (spelling s)

end RuledList.View
