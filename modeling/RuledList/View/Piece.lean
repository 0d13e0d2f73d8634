/-
Pieces: a view cut up without regard to nesting. A piece is an opening
tag with its attributes, a self-closing tag, a closing tag, a text or an
embedded expression. Which closing tag belongs to which opening one is
not asked here (`Node.lean` asks it), so pieces are read by one walk
down the tokens.

The walk stops at the first fault. Whoever builds nodes from the pieces
meets the faults of nesting first, as they stand before it. Tokens left
over after an expression are different: they do not stop the walk and
are complained about only when nothing else is wrong.
-/
import RuledList.View.Error

namespace RuledList.View

/-- A piece of a view. -/
inductive Piece where
  | opening (tag : Name) (attrs : List Attribute)
  | single (tag : Name) (attrs : List Attribute)
  | closing (tag : Name)
  | text (value : String)
  | expr (tokens : List Token)

/-- What comes of reading pieces. -/
structure Reading where
  /-- The pieces up to the end or the first fault. -/
  pieces : List Piece
  /-- The fault that ended the reading. -/
  fault? : Option ViewError
  /-- Whether no expression left tokens over. -/
  whole : Bool

namespace Reading

/-- The end of the tokens. -/
def done : Reading := ⟨[], none, true⟩

/-- A fault. -/
def fail (e : ViewError) : Reading := ⟨[], some e, true⟩

/-- A piece before others. -/
def add (p : Piece) (r : Reading) : Reading :=
  { r with pieces := p :: r.pieces }

/-- Take over whether an expression was read to its end. -/
def mark (whole : Bool) (r : Reading) : Reading :=
  { r with whole := whole && r.whole }

/-- Read pieces off tokens. Inside an opening tag, `tag?` holds its name
and the attributes before this place. A closing tag is a piece as soon
as its name is read, so that a wrong name is a fault before a missing
angle bracket is. -/
def ofTokens (reader : ExprReader) :
    (tag? : Option (Name × List Attribute)) → List Token → Reading
  | none, [] => done
  | none, .literal spelling :: rest =>
    match textOfLiteral? spelling with
    | some value => (ofTokens reader none rest).add (.text value)
    | none => fail .notANode
  | none, .group .brace content :: rest =>
    match reader content with
    | some (tokens, whole) =>
      ((ofTokens reader none rest).add (.expr tokens)).mark whole
    | none => fail .malformed
  | none, .punct '<' _ :: .punct '/' _ :: .ident raw word ::
      .punct '>' _ :: rest =>
    match Name.ofIdent? raw word with
    | some tag => (ofTokens reader none rest).add (.closing tag)
    | none => fail .malformed
  | none, .punct '<' _ :: .punct '/' _ :: .ident raw word :: _ =>
    match Name.ofIdent? raw word with
    | some tag => (fail .malformed).add (.closing tag)
    | none => fail .malformed
  | none, .punct '<' _ :: .ident raw word :: rest =>
    match Name.ofIdent? raw word with
    | some tag => ofTokens reader (some (tag, [])) rest
    | none => fail .malformed
  | none, .punct '<' _ :: _ => fail .malformed
  | none, _ :: _ => fail .notANode
  | some (tag, attrs), .punct '/' _ :: .punct '>' _ :: rest =>
    (ofTokens reader none rest).add (.single tag attrs)
  | some (tag, attrs), .punct '>' _ :: rest =>
    (ofTokens reader none rest).add (.opening tag attrs)
  | some (tag, attrs), .ident raw word :: .punct '=' _ :: value ::
      rest =>
    match Name.ofIdent? raw word, AttrValue.ofToken? reader value with
    | some name, some (value, whole) =>
      (ofTokens reader (some (tag, attrs ++ [⟨name, value⟩])) rest).mark
        whole
    | _, _ => fail .malformed
  | some _, _ => fail .malformed
termination_by structural _ ts => ts

end Reading

end RuledList.View
