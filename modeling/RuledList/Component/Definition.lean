/-
Defined components. A component is either custom, a function from
properties and slot content to a tree, or produced from a registry of
rules. Components are defined one after the other, and a reference
(`ComponentRef`) is a place in the list of all of them, the `Catalog`.

A produced component whose instances share their globals is given a
cell when it is defined; otherwise every instance brings its own map.
-/
import RuledList.Component.Ambient
import RuledList.Component.Config
import RuledList.Component.Surface

namespace RuledList

-- ================================================== produced components

/-- Where the globals of a component's instances live. -/
inductive Scope where
  /-- Every instance has its own. -/
  | perInstance
  /-- All instances use the map in one cell. -/
  | shared (cell : Nat)
  deriving DecidableEq

/-- A component produced from rules. -/
structure Definition where
  registry : Registry
  config : OutputConfig
  surface : Surface
  scope : Scope

namespace Definition

/-- Produce a component from rules. -/
def ofRegistry (registry : Registry) (config : OutputConfig)
    (a : Ambient) : Definition × Ambient :=
  let surface := Surface.ofRules registry.rules
  let a := a.tellAll (Surface.notices registry.rules)
  if config.functional then
    let a := if config.setup?.isSome then a.tell .setupIgnored else a
    let (cell, cells) := a.cells.add
    (⟨registry, config, surface, .shared cell⟩, { a with cells })
  else (⟨registry, config, surface, .perInstance⟩, a)

/-- The component's name. -/
def name (d : Definition) : String := d.config.name

/-- Whether all instances share one globals map. -/
def isFunctional (d : Definition) : Bool := d.scope != .perInstance

/-- The globals map that all instances share, if they share one. -/
def sharedGlobals? (d : Definition) (a : Ambient) : Option Globals :=
  match d.scope with
  | .perInstance => none
  | .shared cell => some (a.cells.read cell)

/-- What an inspection text says of a produced component. -/
def shown (d : Definition) : Shown :=
  .struct "ProducedComponent"
    [("rules", .count d.registry.size),
      ("properties", .strings d.surface.properties.keys),
      ("emits", .strings d.surface.emits),
      ("config", d.config.shown)]

end Definition

-- ==================================================== custom components

/-- What the render function of a custom component leaves behind. -/
structure CustomResult where
  node : Node
  cells : Cells
  observed : List Observation

/-- The render function of a custom component: properties, slot content,
and the shared globals maps, which it may change. -/
abbrev CustomFn := Props → List Node → Cells → CustomResult

-- ============================================================= catalogs

/-- A defined component. -/
inductive Component where
  /-- A custom component has one handle for all its uses. -/
  | custom (name : String) (handle : Nat) (render : CustomFn)
  | produced (definition : Definition)

namespace Component

/-- Define a custom component. -/
def ofRender (name : String) (render : CustomFn) (a : Ambient) :
    Component × Ambient :=
  let (handle, a) := a.newHandle
  (.custom name handle render, a)

/-- The component's name. -/
def name : Component → String
  | .custom name _ _ => name
  | .produced d => d.name

/-- The properties that the component declares. A custom component
declares none. -/
def properties : Component → PropSpecs
  | .custom _ _ _ => OrdMap.empty
  | .produced d => d.surface.properties

/-- The events that the component declares. -/
def emits : Component → List String
  | .custom _ _ _ => []
  | .produced d => d.surface.emits

end Component

/-- All defined components, in order of definition. -/
abbrev Catalog := List Component

/-- How a tree refers to a component: a custom one through its handle, a
produced one anew with each use. -/
def Catalog.ref? (catalog : Catalog) (component : Nat) :
    Option ComponentRef :=
  match catalog[component]? with
  | none => none
  | some (.custom name handle _) => some ⟨component, name, some handle⟩
  | some (.produced d) => some ⟨component, d.name, none⟩

end RuledList
