/-
Names and attributes, the smallest parts of a view. A name is an
identifier that is no keyword, and says so in its type; so does a string
literal. What a view embeds between braces is kept as tokens: a view
never looks inside an expression.
-/
import RuledList.Shown
import RuledList.View.Expression.Cursor

namespace RuledList.View

-- ================================================================= names

/-- The name of a tag or an attribute. -/
structure Name where
  /-- Whether it is marked as raw. -/
  raw : Bool
  /-- The identifier without its mark. -/
  word : String
  legal : Expression.isName raw word = true
  deriving DecidableEq

namespace Name

/-- An identifier as a name, unless it is a keyword. -/
def ofIdent? (raw : Bool) (word : String) : Option Name :=
  if legal : Expression.isName raw word = true then
    some ⟨raw, word, legal⟩
  else none

/-- The name as it is written, its mark included. -/
def text (n : Name) : String := identText n.raw n.word

end Name

-- ======================================================== string literals

/-- A string literal in its source spelling. -/
structure TextLiteral where
  spelling : String
  quoted : isTextLiteral spelling = true
  deriving DecidableEq

namespace TextLiteral

/-- A literal as a string literal, if it is one. -/
def ofSpelling? (spelling : String) : Option TextLiteral :=
  if quoted : isTextLiteral spelling = true then some ⟨spelling, quoted⟩
  else none

/-- The text that the literal stands for. -/
def value (l : TextLiteral) : String :=
  (textOfLiteral? l.spelling).get l.quoted

end TextLiteral

-- ============================================================ attributes

/-- What an attribute is set to. -/
inductive AttrValue where
  | literal (text : TextLiteral)
  | expr (tokens : List Token)

/-- An attribute of an element. -/
structure Attribute where
  name : Name
  value : AttrValue

/-- What an inspection text says of an attribute: a literal's text, an
expression's tokens. -/
def Attribute.shown (a : Attribute) : Shown :=
  .struct "Attribute"
    [("name", .string a.name.text),
      ("value", .string (match a.value with
        | .literal l => l.value
        | .expr tokens => Token.textAll tokens))]

-- =========================================================== expressions

/-- How an expression is taken off the head of the tokens between two
braces: its own tokens, and whether nothing was left over. -/
abbrev ExprReader := List Token → Option (List Token × Bool)

/-- Read the tokens between the braces of an attribute's value or a
string literal as one; also whether nothing was left over. -/
def AttrValue.ofToken? (reader : ExprReader) :
    Token → Option (AttrValue × Bool)
  | .group .brace content =>
    (reader content).map fun (tokens, whole) => (.expr tokens, whole)
  | .literal spelling =>
    (TextLiteral.ofSpelling? spelling).map fun l => (.literal l, true)
  | _ => none

end RuledList.View
