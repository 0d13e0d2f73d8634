/-
Rust token trees, the material that views are read from and that code
is written in. A token is an identifier, a punctuation character, a
literal in its source spelling, or a group of tokens in brackets. An
operator of several characters is several tokens; all but the last of
them are *joint*, glued to the character that follows.

`Token.textAll` writes tokens down: one space between two tokens, none
after a joint character, none just inside parentheses and brackets, one
just inside braces.
-/

namespace RuledList.View

/-- The brackets of a group. -/
inductive Delimiter where
  | paren
  | bracket
  | brace
  deriving DecidableEq

/-- A token tree. -/
inductive Token where
  /-- An identifier or a keyword. A `raw` one is written with `r#` and
  is never a keyword. -/
  | ident (raw : Bool) (name : String)
  | punct (char : Char) (joint : Bool)
  /-- A literal as it was spelled. -/
  | literal (spelling : String)
  | group (delimiter : Delimiter) (content : List Token)
  deriving Inhabited

/-- The text of an identifier. -/
def identText (raw : Bool) (name : String) : String :=
  if raw then "r#" ++ name else name

namespace Delimiter

/-- The brackets that a character opens. -/
def ofOpening? : Char → Option Delimiter
  | '(' => some .paren
  | '[' => some .bracket
  | '\x7b' => some .brace
  | _ => none

/-- The brackets that a character closes. -/
def ofClosing? : Char → Option Delimiter
  | ')' => some .paren
  | ']' => some .bracket
  | '\x7d' => some .brace
  | _ => none

/-- Put the text of a group's content in its brackets. -/
def enclose (d : Delimiter) (content : String) : String :=
  match d with
  | .paren => "(" ++ content ++ ")"
  | .bracket => "[" ++ content ++ "]"
  | .brace =>
    if content.isEmpty then "\x7b \x7d" else "\x7b " ++ content ++ " \x7d"

end Delimiter

namespace Token

-- ================================================================= text

/-- Whether the next token is written right after this one. -/
def isJoint : Token → Bool
  | .punct _ joint => joint
  | _ => false

mutual

/-- The text of a token. -/
def text : Token → String
  | .ident raw name => identText raw name
  | .punct c _ => c.toString
  | .literal spelling => spelling
  | .group d content => d.enclose (textFrom true content)
termination_by structural t => t

/-- The text of tokens; `glued` tells whether the first one stands right
after what came before. -/
def textFrom (glued : Bool) : List Token → String
  | [] => ""
  | t :: rest =>
    (if glued then "" else " ") ++ text t ++ textFrom t.isJoint rest
termination_by structural ts => ts

end

/-- The text of a run of tokens. -/
def textAll (tokens : List Token) : String := textFrom true tokens

-- ================================================================ counts

mutual

/-- The number of tokens in a token tree, those inside groups
included. -/
def size : Token → Nat
  | .group _ content => 1 + sizeAll content
  | _ => 1
termination_by structural t => t

/-- The number of tokens in a run of token trees. -/
def sizeAll : List Token → Nat
  | [] => 0
  | t :: rest => size t + sizeAll rest
termination_by structural ts => ts

end

-- ============================================================= building

/-- An identifier that is written as it is. -/
def word (name : String) : Token := .ident false name

/-- An operator: its characters, each but the last joint. -/
def operator : List Char → List Token
  | [] => []
  | [c] => [.punct c false]
  | c :: cs => .punct c true :: operator cs

end Token

end RuledList.View
