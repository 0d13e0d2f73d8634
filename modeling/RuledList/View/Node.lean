/-
View nodes: the trees that a view describes. Pieces become nodes by
recursive descent (`Node.forest`): an opening tag takes the nodes up to
its closing tag as children. The first piece that cannot go on decides
the fault — a closing tag that is not the innermost open one's, a
closing tag where none is open, or the end of the view inside an
element.

A self-closing element has a form of its own, so that it has no
children by its type.
-/
import RuledList.View.Expression.Grammar
import RuledList.View.Piece
import RuledList.View.Token.Lexer

namespace RuledList.View

/-- A node of a view. -/
inductive Node where
  | element (tag : Name) (attrs : List Attribute) (children : List Node)
  /-- A self-closing element. -/
  | single (tag : Name) (attrs : List Attribute)
  | text (value : String)
  | expr (tokens : List Token)
  deriving Inhabited

namespace Node

-- ============================================================== building

/-- Build nodes from pieces, down to the end or to the closing tag of
the innermost open element `open?`; return the pieces after that tag
too. `fault?` is what lies beyond the last piece. -/
def forest (fault? : Option ViewError) (open? : Option Name)
    (ps : List Piece) :
    Except ViewError
      { r : List Node × List Piece // r.2.length ≤ ps.length } :=
  match ps with
  | [] =>
    match fault?, open? with
    | some e, _ => .error e
    | none, some tag => .error (.unclosed tag)
    | none, none => .ok ⟨([], []), Nat.le_refl 0⟩
  | .text value :: rest =>
    match forest fault? open? rest with
    | .error e => .error e
    | .ok ⟨(siblings, after), h⟩ =>
      .ok ⟨(.text value :: siblings, after), Nat.le_succ_of_le h⟩
  | .expr tokens :: rest =>
    match forest fault? open? rest with
    | .error e => .error e
    | .ok ⟨(siblings, after), h⟩ =>
      .ok ⟨(.expr tokens :: siblings, after), Nat.le_succ_of_le h⟩
  | .single tag attrs :: rest =>
    match forest fault? open? rest with
    | .error e => .error e
    | .ok ⟨(siblings, after), h⟩ =>
      .ok ⟨(.single tag attrs :: siblings, after), Nat.le_succ_of_le h⟩
  | .opening tag attrs :: rest =>
    match forest fault? (some tag) rest with
    | .error e => .error e
    | .ok ⟨(children, after), h⟩ =>
      match forest fault? open? after with
      | .error e => .error e
      | .ok ⟨(siblings, last), h'⟩ =>
        .ok ⟨(.element tag attrs children :: siblings, last),
          Nat.le_succ_of_le (Nat.le_trans h' h)⟩
  | .closing found :: rest =>
    match open? with
    | none => .error .malformed
    | some tag =>
      if found = tag then .ok ⟨([], rest), Nat.le_succ _⟩
      else .error (.mismatched tag found)
termination_by ps.length
decreasing_by
  · exact Nat.lt_succ_self _
  · exact Nat.lt_succ_self _
  · exact Nat.lt_succ_self _
  · exact Nat.lt_succ_self _
  · exact Nat.lt_succ_of_le h

/-- The nodes of a reading. No expression may have left tokens over. -/
def ofReading (r : Reading) : Except ViewError (List Node) :=
  match forest r.fault? none r.pieces with
  | .error e => .error e
  | .ok ⟨(nodes, _), _⟩ =>
    if r.whole then .ok nodes else .error .malformed

/-- The nodes that tokens describe, which may be none at all. -/
def allOfTokens (reader : ExprReader) (ts : List Token) :
    Except ViewError (List Node) :=
  ofReading (Reading.ofTokens reader none ts)

/-- The nodes of a view given by its tokens: at least one. -/
def ofTokens (reader : ExprReader) (ts : List Token) :
    Except ViewError (List Node) :=
  match allOfTokens reader ts with
  | .error e => .error e
  | .ok nodes => if nodes.isEmpty then .error .noNodes else .ok nodes

/-- The nodes of a view given by its source text. -/
def ofSource (source : String) : Except ViewError (List Node) :=
  match lex? source with
  | some ts => ofTokens Expression.take? ts
  | none => .error .noTokens

-- ======================================================= inspection text

/-- What an inspection text says of an element: of its children it gives
the number alone. -/
def shownElement (tag : Name) (attrs : List Attribute) (children : Nat)
    (selfClosing : Bool) : Shown :=
  .call "Element"
    [.struct "Element"
      [("tag", .string tag.text),
        ("attrs", .list (attrs.map Attribute.shown)),
        ("children", .count children),
        ("self_closing", .flag selfClosing)]]

/-- What an inspection text says of a node. -/
def shown : Node → Shown
  | .element tag attrs children =>
    shownElement tag attrs children.length false
  | .single tag attrs => shownElement tag attrs 0 true
  | .text value => .call "Text" [.string value]
  | .expr tokens =>
    .call "Expr" [.word ("\x7b" ++ Token.textAll tokens ++ "\x7d")]

end Node

end RuledList.View
