/-
Rules. A rule recognises one shape of item and knows how to render it.
An item has the shape when it carries the rule's name as a key and,
beside it, only properties that the rule declares; values play no part
in the test.

A render function is a pure function of the resolved properties, the
item's ordinal, what surrounds the call and the globals as they stand.
What it does to the world is in its result: the globals as it leaves
them, the events that it tried to emit, and what it observed. It never
touches the queue of events itself. The pass that runs it
(`Rule/Pass.lean`) queues the attempts with declared names, so no
render function can lose, reorder or forge an event.
-/
import RuledList.Event.Emitter
import RuledList.Globals.Basic
import RuledList.Node.Basic
import RuledList.Observation
import RuledList.Property.Spec

namespace RuledList

-- ====================================================== render functions

/-- What a render function can see beside its own arguments. -/
structure Surroundings where
  /-- Attributes passed to the component that are no declared
  property. -/
  attrs : Props
  /-- The event names that may be emitted. -/
  declared : List String
  /-- How many events waited when the call began. -/
  pending : Nat

/-- What an inspection text says of the context of a render call: the
globals as they stand, the attributes and the queue. -/
def Surroundings.shown (s : Surroundings) (globals : Globals) : Shown :=
  .struct "RenderContext"
    [("globals", globals.shown), ("attrs", s.attrs.shown),
      ("emitter",
        Emitter.countsShown (distinctCount s.declared) s.pending)]

/-- What a render function leaves behind. -/
structure Rendered where
  node : Node
  globals : Globals
  /-- Every emission attempted, in order, declared or not. -/
  attempts : List Event
  observed : List Observation

/-- A render function: properties, ordinal, surroundings, globals. -/
abbrev RenderFn := Props → Nat → Surroundings → Globals → Rendered

-- ================================================================= rules

/-- One recognisable shape of item and how to render it. -/
structure Rule where
  name : String
  props : PropSpecs
  emits : List String
  render : RenderFn

namespace Rule

/-- A rule that declares nothing. -/
def ofRender (name : String) (render : RenderFn) : Rule :=
  ⟨name, OrdMap.empty, [], render⟩

/-- Declare a property; declaring it again replaces its specification. -/
def withProp (r : Rule) (name : String) (spec : PropSpec) : Rule :=
  { r with props := r.props.insert name spec }

/-- Declare several properties. -/
def withProps (r : Rule) (specs : List (String × PropSpec)) : Rule :=
  { r with props := r.props.insertAll specs }

/-- Declare an event; declaring it again changes nothing. -/
def withEmit (r : Rule) (event : String) : Rule :=
  if r.emits.contains event then r
  else { r with emits := r.emits ++ [event] }

/-- The declared properties that may be bound from outside, in order. -/
def inputs (r : Rule) : List (String × PropSpec) :=
  r.props.entries.filter fun e => e.2.input

/-- Whether an item has the shape of the rule. -/
def accepts (r : Rule) (item : Props) : Bool :=
  item.contains r.name &&
    item.keys.all fun key => key == r.name || r.props.contains key

/-- The defaults of the declared properties that have one. -/
def defaults (r : Rule) : Props :=
  r.props.filterMap fun _ spec => spec.default?

/-- What an inspection text says of a rule: all but its render
function. -/
def shown (r : Rule) : Shown :=
  .record "Rule"
    [("name", .string r.name), ("props", r.props.shown),
      ("emits", .strings r.emits)] true

end Rule

end RuledList
