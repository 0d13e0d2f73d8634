/-
How a produced component is configured: its name, whether its instances
share one globals map, what its rendered items are wrapped in, and what
is run when an instance is set up.
-/
import RuledList.Globals.Basic
import RuledList.Node.Basic
import RuledList.Observation

namespace RuledList

-- ============================================================= wrapping

/-- What the rendered items are wrapped in. -/
inductive Container where
  /-- Nothing: the items are a fragment. -/
  | none
  /-- An element without attributes. -/
  | tag (name : String)
  /-- A component, which is handed the properties and attributes. -/
  | component (ref : ComponentRef)

namespace Container

/-- The wrapping that a name stands for: `none` is no wrapping, anything
else is a tag. -/
def ofName (s : String) : Container := if s = "none" then .none else .tag s

/-- The wrapping when nothing is configured. -/
def standard : Container := .tag "div"

/-- What an inspection text says of a wrapping. -/
def shown : Container → Shown
  | .none => .word "None"
  | .tag name => .call "Tag" [.string name]
  | .component ref => .call "Component" [.string ref.name]

/-- Wrap rendered items. Only a component is handed anything. -/
def wrap (c : Container) (nodes : List Node) (forwarded : Props) : Node :=
  match c with
  | .none => .fragment nodes
  | .tag name => .create (.tag name) OrdMap.empty nodes
  | .component ref => .create (.component ref) forwarded nodes

end Container

-- ================================================================ setup

/-- What a setup hook leaves behind. -/
structure SetupResult where
  globals : Globals
  observed : List Observation

/-- A setup hook: the bound properties with the list of items, the
attributes, and the globals of the new instance. -/
abbrev SetupHook := Props → Props → Globals → SetupResult

/-- What an inspection text says of the context of a setup hook. -/
def setupShown (props attrs : Props) (globals : Globals) : Shown :=
  .struct "SetupContext"
    [("props", props.shown), ("attrs", attrs.shown),
      ("globals", globals.shown)]

-- ======================================================== configuration

/-- The configuration of a produced component. -/
structure OutputConfig where
  /-- Whether all instances share one globals map. -/
  functional : Bool
  name? : Option String
  container : Container
  setup? : Option SetupHook

namespace OutputConfig

/-- The configuration when nothing is configured. -/
def standard : OutputConfig := ⟨false, none, .standard, none⟩

/-- The component's name; unnamed components share one. -/
def name (c : OutputConfig) : String := c.name?.getD "RuleList"

/-- What an inspection text says of a configuration. -/
def shown (c : OutputConfig) : Shown :=
  .struct "OutputConfig"
    [("stateful_output", .flag c.functional),
      ("name", .string c.name),
      ("containing_element", c.container.shown),
      ("setup_hook", .flag c.setup?.isSome)]

end OutputConfig

end RuledList
