/-
What generated code does when it runs. Each form has its plain meaning:
arguments are evaluated from left to right before a call, a list is the
list of its items, a block declares its variable and then goes on, and a
method changes the variable that it is called on. Code is handed over as
tokens, so what is run is what can be read off them
(`Code.evalTokens`).

What embedded expressions do is up to their surroundings, in any monad,
except for string literals, which are texts everywhere. An expression
sees the local variables around it that it mentions, and no others. Code
that makes no sense — tokens that spell none, an unknown function, a
wrong kind of argument — has no result, so evaluation is in `OptionT`.
-/
import RuledList.Node.Basic
import RuledList.View.Code.Reading

namespace RuledList.View

-- ================================================================= scope

/-- Whether characters stand in a row among others. -/
def occursIn (part : List Char) : List Char → Bool
  | [] => part.isEmpty
  | c :: cs => part.isPrefixOf (c :: cs) || occursIn part cs

namespace Token

mutual

/-- Whether a token may name a variable: an identifier does, and the
inside of a literal may, since a format string can. -/
def mentions (name : String) : Token → Bool
  | .ident _ word => word == name
  | .punct _ _ => false
  | .literal spelling => occursIn name.toList spelling.toList
  | .group _ content => mentionsAny name content
termination_by structural t => t

/-- Whether any of some tokens may name a variable. -/
def mentionsAny (name : String) : List Token → Bool
  | [] => false
  | t :: rest => mentions name t || mentionsAny name rest
termination_by structural ts => ts

end

end Token

-- ================================================================ values

/-- What code can evaluate to. An embedded expression has a value of its
own kind. -/
inductive Datum (X : Type) where
  | foreign (x : X)
  | text (content : String)
  | value (v : Value)
  | props (p : Props)
  | node (n : RuledList.Node)
  | nodes (ns : List RuledList.Node)

/-- Local variables, innermost first. -/
abbrev Locals (X : Type) := List (String × Datum X)

/-- The local variables that an expression mentions. -/
def Locals.seenBy {X : Type} (locals : Locals X) (e : List Token) :
    Locals X :=
  locals.filter fun l => Token.mentionsAny l.1 e

/-- What surrounds a view: what its expressions do, with the local
variables that they see, and what becomes of their values. -/
structure Surroundings (m : Type → Type) [Monad m] (X : Type) where
  embedded : List Token → Locals X → m X
  /-- The property value that a value is turned into. -/
  valueOf : X → Value
  /-- The node that a value is turned into. -/
  nodeOf : X → RuledList.Node
  /-- The value of an expression that is a text. -/
  textOf : String → X
  /-- A string literal is an expression of its text. -/
  embedded_literal : ∀ {e : List Token} {t : String},
    literalText? e = some t → ∀ locals,
      embedded e locals = pure (textOf t)
  valueOf_textOf : ∀ t, valueOf (textOf t) = .string t
  nodeOf_textOf : ∀ t, nodeOf (textOf t) = .text t

namespace Datum

variable {X : Type}

/-- The nodes among which every item of a list has to be. -/
def allNodes? : List (Datum X) → Option (List RuledList.Node)
  | [] => some []
  | .node n :: rest => (allNodes? rest).map (n :: ·)
  | _ => none

/-- The result of a function, by its path. -/
def call? {m : Type → Type} [Monad m] (s : Surroundings m X) :
    (path : List String) → List (Datum X) → Option (Datum X)
  | ["std", "string", "String", "from"], [.text t] => some (.text t)
  | ["rule_render", "Value", "from"], [.text t] =>
    some (.value (.string t))
  | ["rule_render", "Value", "from"], [.foreign x] =>
    some (.value (s.valueOf x))
  | ["rule_render", "props", "Props", "new"], [] =>
    some (.props OrdMap.empty)
  | ["rule_render", "node", "create_element"],
      [.text tag, .props p, .nodes ns] =>
    some (.node (.create (.tag tag) p ns))
  | ["rule_render", "node", "RenderNode", "text"], [.text t] =>
    some (.node (.text t))
  | ["rule_render", "node", "RenderNode", "from"], [.text t] =>
    some (.node (.text t))
  | ["rule_render", "node", "RenderNode", "from"], [.foreign x] =>
    some (.node (s.nodeOf x))
  | _, _ => none

/-- What a method makes of the variable that it is called on. -/
def change? : Datum X → (method : String) → List (Datum X) →
    Option (Datum X)
  | .props p, "insert", [.text name, .value v] =>
    some (.props (p.insert name v))
  | _, _, _ => none

end Datum

-- ============================================================ evaluation

/-- A result that may not be there. -/
def known {m : Type → Type} [Monad m] {α : Type} (a? : Option α) :
    OptionT m α :=
  OptionT.mk (pure a?)

namespace Code

variable {m : Type → Type} [Monad m] {X : Type} (s : Surroundings m X)

mutual

/-- What code evaluates to, among local variables. -/
def eval (locals : Locals X) : Code → OptionT m (Datum X)
  | .literal spelling => known ((textOfLiteral? spelling).map .text)
  | .embedded tokens => do
    let x ← s.embedded tokens (locals.seenBy tokens)
    pure (.foreign x)
  | .variable name => known (findEntry name locals)
  | .call path _ arguments => do
    let ds ← evalAll locals arguments
    known (Datum.call? s path ds)
  | .method _ _ _ => failure
  | .list items => do
    let ds ← evalAll locals items
    known ((Datum.allNodes? ds).map .nodes)
  | .building name start steps result => do
    let d ← eval locals start
    let changed ← perform ((name, d) :: locals) steps
    eval changed result
  | .naming name _ value result => do
    let d ← eval locals value
    eval ((name, d) :: locals) result
termination_by structural c => c

/-- What several pieces of code evaluate to, one after the other. -/
def evalAll (locals : Locals X) : List Code → OptionT m (List (Datum X))
  | [] => pure []
  | c :: rest => do
    let d ← eval locals c
    let ds ← evalAll locals rest
    pure (d :: ds)
termination_by structural cs => cs

/-- The local variables after a step. Only the call of a method is
one. -/
def step (locals : Locals X) : Code → OptionT m (Locals X)
  | .method receiver name arguments => do
    let ds ← evalAll locals arguments
    let d ← known (findEntry receiver locals)
    let changed ← known (d.change? name ds)
    pure (putEntry receiver changed locals)
  | _ => failure
termination_by structural c => c

/-- The local variables after several steps. -/
def perform (locals : Locals X) : List Code → OptionT m (Locals X)
  | [] => pure locals
  | c :: rest => do
    let changed ← step locals c
    perform changed rest
termination_by structural cs => cs

end

/-- What tokens evaluate to, as the code that they spell. -/
def evalTokens (reader : ExprReader) (ts : List Token) :
    OptionT m (Datum X) := do
  let code ← known (read? reader ts)
  eval s [] code

end Code

end RuledList.View
