/-
Instances. Mounting a produced component splits what is passed into
three: the list of items, the declared properties (`bound`), and the
rest (`attrs`). Afterwards properties are bound and unbound one by one,
the list of items is replaced as a whole, and the attributes stay.

An operation that can fail answers with an `Except` beside the state it
leaves, so what a failure leaves behind is there to be seen.
-/
import RuledList.Component.Definition

namespace RuledList

-- ========================================================= lists of items

/-- The items from a position on; the first one that is no object is
reported by its position. -/
def itemsFrom (index : Nat) : List Value →
    Except BindingError (List Props)
  | [] => .ok []
  | v :: rest =>
    match Props.ofValue? v with
    | none => .error (.itemNotObject index)
    | some item => (itemsFrom (index + 1) rest).map (item :: ·)

/-- The list of items that a value spells. -/
def itemsOfValue : Value → Except BindingError (List Props)
  | .array items => itemsFrom 0 items
  | v => .error (.dataNotArray v)

/-- A list of items as a value. -/
def itemsToValue (data : List Props) : Value :=
  .array (data.map Props.toValue)

/-- The list of items among passed properties; empty when none is
passed. -/
def passedItems (passed : Props) : Except BindingError (List Props) :=
  match passed.get? dataName with
  | none => .ok []
  | some v => itemsOfValue v

-- ============================================================ instances

/-- The globals of an instance: a map of its own, or a shared cell. -/
inductive InstanceGlobals where
  | own (globals : Globals)
  | shared (cell : Nat)

/-- A mounted produced component. -/
structure Instance where
  /-- The place of the component among the defined ones. -/
  component : Nat
  definition : Definition
  /-- The declared properties that are bound, the list of items
  excepted. -/
  bound : Props
  /-- What was passed beside declared properties. -/
  attrs : Props
  /-- The list of items. -/
  data : List Props
  globals : InstanceGlobals
  emitter : Emitter

namespace Instance

-- ============================================================= mounting

/-- The passed properties that a surface declares, the list of items
excepted. -/
def boundOf (s : Surface) (passed : Props) : Props :=
  passed.filter fun name _ => s.isBindable name

/-- The passed properties that a surface does not declare. -/
def attrsOf (s : Surface) (passed : Props) : Props :=
  passed.filter fun name _ =>
    name != dataName && !s.properties.contains name

/-- The globals of a new instance, after the setup hook has run on them
if there is one. -/
def setUp (d : Definition) (bound attrs : Props) (data : List Props)
    (a : Ambient) : InstanceGlobals × Ambient :=
  match d.scope with
  | .shared cell => (.shared cell, a)
  | .perInstance =>
    match d.config.setup? with
    | none => (.own Globals.fresh, a)
    | some hook =>
      let props := bound.insert dataName (itemsToValue data)
      let out := hook props attrs Globals.fresh
      (.own out.globals, (a.tell .setupRuns).observe out.observed)

/-- Mount a component. -/
def mount (component : Nat) (d : Definition) (passed : Props)
    (a : Ambient) : Except BindingError Instance × Ambient :=
  match passedItems passed with
  | .error e => (.error e, a)
  | .ok data =>
    let bound := boundOf d.surface passed
    let attrs := attrsOf d.surface passed
    let (globals, a) := setUp d bound attrs data a
    (.ok ⟨component, d, bound, attrs, data, globals,
      .ofNames d.surface.emits⟩, a)

-- ============================================================== binding

/-- Replace the list of items. -/
def setData (i : Instance) (data : List Props) : Instance :=
  { i with data }

/-- Replace the list of items by the one that a value spells. -/
def setDataValue (i : Instance) (v : Value) :
    Except BindingError Unit × Instance :=
  match itemsOfValue v with
  | .error e => (.error e, i)
  | .ok data => (.ok (), i.setData data)

/-- Bind a declared property. -/
def setProp (i : Instance) (name : String) (v : Value) :
    Except BindingError Unit × Instance :=
  if i.definition.surface.isBindable name then
    (.ok (), { i with bound := i.bound.insert name v })
  else (.error (.notBindable name), i)

/-- Unbind a property; its value comes first. -/
def unsetProp (i : Instance) (name : String) : Option Value × Instance :=
  (i.bound.get? name, { i with bound := i.bound.erase name })

-- ============================================================== globals

/-- The globals as they stand. -/
def readGlobals (i : Instance) (a : Ambient) : Globals :=
  match i.globals with
  | .own g => g
  | .shared cell => a.cells.read cell

/-- Replace the globals, wherever they live. -/
def writeGlobals (i : Instance) (g : Globals) (a : Ambient) :
    Instance × Ambient :=
  match i.globals with
  | .own _ => ({ i with globals := .own g }, a)
  | .shared cell => (i, { a with cells := a.cells.write cell g })

-- ======================================================= inspection text

/-- What an inspection text says of an instance. -/
def shown (i : Instance) (a : Ambient) : Shown :=
  .struct "Instance"
    [("component", i.definition.shown), ("bound", i.bound.shown),
      ("attrs", i.attrs.shown),
      ("data", .list (i.data.map Props.shown)),
      ("globals", (i.readGlobals a).shown),
      ("emitter", i.emitter.shown)]

end Instance

end RuledList
