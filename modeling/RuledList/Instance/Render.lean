/-
Rendering an instance, and rendering a component inside another tree.

A render pass of an instance runs over its list of items, wraps what
comes out, and leaves the globals and the queue as the render functions
left them; properties, attributes and items stay as they are.

A component inside a tree is rendered by mounting it for one pass. If
its properties do not mount, nothing is rendered. Its events have no
listener: they are counted and dropped.
-/
import RuledList.Instance.Basic
import RuledList.Node.Expand
import RuledList.Rule.Pass

namespace RuledList

/-- The result of a render pass. -/
structure RenderOutput where
  node : Node
  /-- The positions of the items that no rule accepts. -/
  unmatched : List Nat

/-- Equality of results. -/
def RenderOutput.same (a b : RenderOutput) : Bool :=
  a.node.same b.node && a.unmatched == b.unmatched

namespace Instance

/-- Run a render pass. -/
def renderPass (i : Instance) (a : Ambient) :
    RenderOutput × Instance × Ambient :=
  let d := i.definition
  let (nodes, unmatched, pass) :=
    Pass.renderItems d.registry i.bound i.attrs i.data
      (.start (i.readGlobals a) i.emitter)
  let a := (a.tellAll pass.notices).observe pass.observed
  let (i, a) := i.writeGlobals pass.globals a
  let (nodes, a) := a.issueAll nodes
  let node := d.config.container.wrap nodes
    (forwardedProps i.bound i.attrs)
  (⟨node, unmatched⟩, { i with emitter := pass.emitter }, a)

end Instance

-- ============================================================ embedding

/-- Render a produced component inside a tree. -/
def Definition.embed (component : Nat) (d : Definition) (props : Props)
    (a : Ambient) : Node × Ambient :=
  match Instance.mount component d props a with
  | (.error e, a) => (.fragment [], a.tell (.embeddedNothing d.name e))
  | (.ok i, a) =>
    let (out, i, a) := i.renderPass a
    let dropped := i.emitter.pending
    (out.node,
      if dropped = 0 then a else a.tell (.embeddedEvents d.name dropped))

namespace Catalog

/-- Render a component inside a tree. A reference to a component that
is not defined renders nothing at all. -/
def render (catalog : Catalog) (ref : ComponentRef) (props : Props)
    (slot : List Node) (a : Ambient) : Option (Node × Ambient) :=
  match catalog[ref.component]? with
  | none => none
  | some (.custom _ _ f) =>
    let out := f props slot a.cells
    some (({ a with cells := out.cells }.observe out.observed).issue
      out.node)
  | some (.produced d) => some (d.embed ref.component props a)

/-- Expand a tree fully. When every component leads only to components
defined before it, a chain of outputs is no longer than the catalog, so
its length is depth enough. -/
def expand (catalog : Catalog) (n : Node) (a : Ambient) :
    Option (Node × Ambient) :=
  n.expandWith catalog.render catalog.length a

end Catalog

end RuledList
