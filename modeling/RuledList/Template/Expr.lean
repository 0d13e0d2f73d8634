/-
Value expressions: the computed values of templates. An expression is
evaluated in a scope, which says where the template stands — in a rule,
in a setup hook, in a custom component, or nowhere in particular — and
against a run, which carries the globals and the events so far. What a
place does not offer is null, or an empty object where a map is asked
for.
-/
import RuledList.Component.Config
import RuledList.Rule.Basic

namespace RuledList.Template

-- =========================================================== expressions

/-- A value expression. -/
inductive Expr where
  /-- A value that stands for itself. -/
  | literal (v : Value)
  | array (items : List Expr)
  | object (fields : List (String × Expr))
  /-- A property. -/
  | prop (name : String)
  /-- All properties, as an object. -/
  | props
  /-- An attribute. -/
  | attr (name : String)
  /-- All attributes, as an object. -/
  | attrs
  /-- The item's ordinal. -/
  | index
  /-- An entry of the globals. -/
  | global (name : String)
  /-- The names in the globals. -/
  | keys
  /-- The inspection text of the context. -/
  | context
  /-- The word after a word, starting over at the end; anything that is
  no word counts as zero. -/
  | increment (e : Expr)
  /-- True unless the operand is `true`. -/
  | negation (e : Expr)
  /-- The plain text of a value. -/
  | plain (e : Expr)
  deriving Inhabited

-- ================================================================ scopes

/-- Where a template stands. -/
inductive Place where
  /-- In the render function of a rule. -/
  | rule (index : Nat) (surroundings : Surroundings)
  /-- In a setup hook. -/
  | setup (attrs : Props)
  /-- In a custom component, or in no component at all. -/
  | plain

/-- What a template can look at. -/
structure Scope where
  place : Place
  props : Props
  slot : List Node

namespace Scope

/-- A scope that offers nothing. -/
def bare : Scope := ⟨.plain, OrdMap.empty, []⟩

/-- The attributes of a scope. -/
def attrs (s : Scope) : Props :=
  match s.place with
  | .rule _ around => around.attrs
  | .setup attrs => attrs
  | .plain => OrdMap.empty

/-- The event names that may be emitted, where events can be emitted at
all. -/
def declared? (s : Scope) : Option (List String) :=
  match s.place with
  | .rule _ around => some around.declared
  | _ => none

end Scope

/-- What a template changes as it is evaluated. -/
structure Run where
  /-- The globals, where there are any. -/
  globals? : Option Globals
  /-- The emissions attempted, in order. -/
  attempts : List Event
  observed : List Observation

namespace Run

/-- A run that is about to begin. -/
def start (globals? : Option Globals) : Run := ⟨globals?, [], []⟩

/-- How many of the attempted emissions have one of these names. -/
def accepted (r : Run) (declared : List String) : Nat :=
  (r.attempts.filter fun e => declared.contains e.name).length

/-- The inspection text of the context, as it stands at this moment. -/
def contextText? (r : Run) (s : Scope) : Option String :=
  match s.place, r.globals? with
  | .rule _ around, some g =>
    let pending := around.pending + r.accepted around.declared
    some (({ around with pending }).shown g).text
  | .setup attrs, some g => some (setupShown s.props attrs g).text
  | _, _ => none

end Run

-- ============================================================ evaluation

/-- A value that may not be there; null stands in for it. -/
def orNull (v : Option Value) : Value := v.getD .null

namespace Expr

mutual

/-- The value of an expression. -/
def eval (s : Scope) (r : Run) : Expr → Value
  | .literal v => v
  | .array items => .array (evalAll s r items)
  | .object fields => .object (evalFields s r fields)
  | .prop name => orNull (s.props.get? name)
  | .props => s.props.toValue
  | .attr name => orNull (s.attrs.get? name)
  | .attrs => s.attrs.toValue
  | .index =>
    match s.place with
    | .rule ordinal _ => .int ordinal
    | _ => .null
  | .global name => orNull (r.globals?.bind fun g => g.get? name)
  | .keys =>
    orNull (r.globals?.map fun g => .array (g.keys.map .string))
  | .context => orNull ((r.contextText? s).map .string)
  | .increment e =>
    .int (Number.wrap64 ((eval s r e).toInt64?.getD 0 + 1))
  | .negation e =>
    match eval s r e with
    | .bool true => .bool false
    | _ => .bool true
  | .plain e => .string (eval s r e).plainText
termination_by structural e => e

/-- The values of an array's items. -/
def evalAll (s : Scope) (r : Run) : List Expr → List Value
  | [] => []
  | e :: rest => eval s r e :: evalAll s r rest
termination_by structural es => es

/-- The values of an object's fields. -/
def evalFields (s : Scope) (r : Run) :
    List (String × Expr) → List (String × Value)
  | [] => []
  | (k, e) :: rest => (k, eval s r e) :: evalFields s r rest
termination_by structural fs => fs

end

end Expr

end RuledList.Template
