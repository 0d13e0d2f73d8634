/-
The surface of a produced component: the properties that can be passed
to it and the events that it can emit. Both are derived from its rules.
Every component takes the list of items; every property that some rule
declares as an input is taken too, with the specification of the first
rule that declares it, and brings the event that asks for it to be
bound. The events that rules list follow as they are met.

An input is checked against the properties, an event against the events
already there. So an update event that one rule lists on its own stays
in the list when a later rule brings the same event with an input.
-/
import RuledList.Notice
import RuledList.Rule.Registry
import RuledList.Rule.Resolve

namespace RuledList

/-- The properties a component takes and the events it emits. -/
structure Surface where
  properties : PropSpecs
  emits : List String

namespace Surface

/-- The specification of the list of items: an array, empty unless
given. -/
def dataSpec : PropSpec := (PropSpec.ofType .array).withDefault (.array [])

/-- The surface of a component without rules. -/
def bare : Surface := ⟨OrdMap.empty.insert dataName dataSpec, []⟩

/-- Add an input property, unless it is the list of items or there
already. -/
def addInput (s : Surface) (input : String × PropSpec) : Surface :=
  if input.1 = dataName then s
  else if s.properties.contains input.1 then s
  else ⟨s.properties.insert input.1 input.2,
    s.emits ++ [Event.updateName input.1]⟩

/-- Add an event, unless it is there already. -/
def addEvent (s : Surface) (event : String) : Surface :=
  if s.emits.contains event then s
  else { s with emits := s.emits ++ [event] }

/-- Add what a rule declares: its inputs, then its events. -/
def addRule (s : Surface) (rule : Rule) : Surface :=
  rule.emits.foldl addEvent (rule.inputs.foldl addInput s)

/-- The surface that rules declare. -/
def ofRules (rules : List Rule) : Surface := rules.foldl addRule bare

/-- The notices that deriving a surface gives rise to: one for each
rule that declares the list of items as an input. -/
def notices (rules : List Rule) : List Notice :=
  rules.filterMap fun rule =>
    if rule.inputs.any fun e => e.1 == dataName then
      some (.reservedInput rule.name)
    else none

/-- Whether a property can be bound from outside on its own. -/
def isBindable (s : Surface) (name : String) : Bool :=
  name != dataName && s.properties.contains name

end Surface

end RuledList
