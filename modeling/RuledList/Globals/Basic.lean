/-
Globals: the map through which sibling items of one render pass, and
successive passes of one instance, talk to each other. It holds values
by name and remembers the order in which the names came.

`Globals.modify` works on an entry in place; an absent entry is first
written as null, at the end.
-/
import RuledList.Value.Text

namespace RuledList

/-- The state shared by the items of an instance. -/
abbrev Globals := Props

namespace Globals

/-- The globals that hold nothing. -/
def fresh : Globals := OrdMap.empty

/-- Replace the entry of a name by what `f` makes of it, null standing
in for an absent one. -/
def modify (g : Globals) (name : String) (f : Value → Value) : Globals :=
  g.insert name (f ((g.get? name).getD .null))

end Globals

end RuledList
