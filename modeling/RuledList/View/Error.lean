/-
Why a view is refused. Only faults of the view itself have words; what
is wrong below it — text that is no tokens, a tag that is badly made, an
expression that is none — is said by kind alone.
-/
import RuledList.View.Attribute

namespace RuledList.View

/-- What can be wrong with a view. -/
inductive ViewError where
  /-- The source cannot be cut into tokens. -/
  | noTokens
  /-- A tag, an attribute or an expression is badly made. -/
  | malformed
  /-- Something stands where a node should. -/
  | notANode
  /-- There is nothing in the view. -/
  | noNodes
  /-- The view ends inside an element. -/
  | unclosed (tag : Name)
  /-- An element is closed by another one's tag. -/
  | mismatched (expected found : Name)
  deriving DecidableEq

namespace ViewError

/-- The error in words, if it has any. -/
def message? : ViewError → Option String
  | .noTokens => none
  | .malformed => none
  | .notANode => some ("expected `<element>`, a string literal, or " ++
      "`\x7bexpression\x7d`")
  | .noNodes => some "view! macro requires at least one node"
  | .unclosed tag =>
    some ("unclosed element: expected `</" ++ tag.text ++ ">`")
  | .mismatched expected found =>
    some ("mismatched closing tag: expected `</" ++ expected.text ++
      ">`, found `</" ++ found.text ++ ">`")

end ViewError

end RuledList.View
