/-
The code of a view: what builds the render nodes that the view
describes. An element becomes a call with its tag, a property map into
which its attributes are put one after the other, and the list of its
children; a text and an expression become calls of their own. The whole
is a list with an entry for each node of the view.
-/
import RuledList.View.Code.Basic
import RuledList.View.Node

namespace RuledList.View.Code

-- ================================================================= names

/-- The variable that the attributes of an element gather in. -/
def attrsVariable : String := "__attrs"

/-- The variable that holds the nodes of a view. -/
def nodesVariable : String := "__nodes"

/-- The type of render nodes. -/
def nodePath : List String := ["rule_render", "node", "RenderNode"]

/-- A text as code. -/
def ofText (s : String) : Code := .literal (spelling s)

-- ============================================================== elements

/-- The value of an attribute, literals in their own spelling. -/
def ofAttrValue : AttrValue → Code
  | .literal l => .literal l.spelling
  | .expr tokens => .ofExpression tokens

/-- The step that puts an attribute into the property map. -/
def ofAttribute (a : Attribute) : Code :=
  .method attrsVariable "insert"
    [.call ["std", "string", "String", "from"] false
      [ofText a.name.text],
     .call ["rule_render", "Value", "from"] false [ofAttrValue a.value]]

/-- The property map of an element. -/
def ofAttributes (attrs : List Attribute) : Code :=
  .building attrsVariable
    (.call ["rule_render", "props", "Props", "new"] false [])
    (attrs.map ofAttribute) (.variable attrsVariable)

/-- An element with the code of its children. -/
def ofElement (tag : Name) (attrs : List Attribute)
    (children : List Code) : Code :=
  .call ["rule_render", "node", "create_element"] true
    [ofText tag.text, ofAttributes attrs, .list children]

-- ================================================================= nodes

mutual

/-- The code of a node. -/
def ofNode : Node → Code
  | .element tag attrs children =>
    ofElement tag attrs (ofNodes children)
  | .single tag attrs => ofElement tag attrs []
  | .text value => .call (nodePath ++ ["text"]) false [ofText value]
  | .expr tokens => .call (nodePath ++ ["from"]) false [.ofExpression tokens]
termination_by structural n => n

/-- The code of several nodes, in order. -/
def ofNodes : List Node → List Code
  | [] => []
  | n :: rest => ofNode n :: ofNodes rest
termination_by structural ns => ns

end

/-- The code of a view. -/
def ofView (nodes : List Node) : Code :=
  .naming nodesVariable (.applied ["std", "vec", "Vec"] (.named nodePath))
    (.list (ofNodes nodes)) (.variable nodesVariable)

/-- The code of a view given by its tokens. -/
def ofTokens (reader : ExprReader) (ts : List Token) :
    Except ViewError Code :=
  (Node.ofTokens reader ts).map ofView

/-- The tokens that a view given by its tokens is replaced with. -/
def expansion (reader : ExprReader) (ts : List Token) :
    Except ViewError (List Token) :=
  (ofTokens reader ts).map tokens

end RuledList.View.Code
