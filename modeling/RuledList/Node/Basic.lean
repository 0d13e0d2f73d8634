/-
Render trees. A node is an element with a tag, an invocation of a
component, a text, or a fragment — a run of siblings without a wrapper.
An invocation carries its children as the component's slot content.

A component is referred to by its place among the defined components,
never by containing it, and every reference has a *handle*, its
identity: two invocations are the same only if they go through one
handle. Components with a fixed handle share it among all their uses. A
reference that is made anew with each use starts without a handle, and
`Node.issue` numbers it once the tree it stands in has been rendered,
so that no render function can tell one handle from another.
-/
import RuledList.Value.Text

namespace RuledList

/-- A reference to a defined component. -/
structure ComponentRef where
  /-- The component's place among the defined ones. -/
  component : Nat
  /-- The component's display name. -/
  name : String
  /-- The identity of this reference, once it has one. -/
  handle? : Option Nat
  deriving DecidableEq

/-- A node of a render tree. -/
inductive Node where
  | element (tag : String) (attrs : Props) (children : List Node)
  | component (ref : ComponentRef) (props : Props) (children : List Node)
  | text (content : String)
  | fragment (children : List Node)
  deriving Inhabited

/-- What a node with attributes and children instantiates. -/
inductive Target where
  | tag (name : String)
  | component (ref : ComponentRef)

namespace Node

/-- The node that instantiates a target. -/
def create : Target → Props → List Node → Node
  | .tag name, attrs, children => .element name attrs children
  | .component ref, props, children => .component ref props children

-- ============================================================== the parts

/-- The children of a node; a text has none. -/
def children : Node → List Node
  | .element _ _ cs => cs
  | .component _ _ cs => cs
  | .text _ => []
  | .fragment cs => cs

/-- The tag of an element or the name of a component. -/
def tag? : Node → Option String
  | .element tag _ _ => some tag
  | .component ref _ _ => some ref.name
  | _ => none

/-- The attributes of an element or the properties of a component. -/
def attrs? : Node → Option Props
  | .element _ attrs _ => some attrs
  | .component _ props _ => some props
  | _ => none

/-- Whether a node is a fragment. -/
def isFragment : Node → Bool
  | .fragment _ => true
  | _ => false

-- ================================================================= text

mutual

/-- The text of a tree, in document order. -/
def textContent : Node → String
  | .text t => t
  | .element _ _ cs => textContents cs
  | .component _ _ cs => textContents cs
  | .fragment cs => textContents cs
termination_by structural n => n

/-- The text of several trees, one after the other. -/
def textContents : List Node → String
  | [] => ""
  | n :: rest => textContent n ++ textContents rest
termination_by structural ns => ns

end

-- ============================================================= equality

mutual

/-- Equality of trees: kinds, tags, texts and handles agree everywhere,
attributes and properties as property maps do. -/
def same : Node → Node → Bool
  | .element t₁ a₁ c₁, .element t₂ a₂ c₂ =>
    t₁ == t₂ && a₁.same a₂ && sameAll c₁ c₂
  | .component r₁ p₁ c₁, .component r₂ p₂ c₂ =>
    r₁ == r₂ && p₁.same p₂ && sameAll c₁ c₂
  | .text a, .text b => a == b
  | .fragment a, .fragment b => sameAll a b
  | _, _ => false
termination_by structural n => n

/-- Equality of sibling lists, place by place. -/
def sameAll : List Node → List Node → Bool
  | [], [] => true
  | a :: as, b :: bs => same a b && sameAll as bs
  | _, _ => false
termination_by structural ns => ns

end

-- ============================================================== handles

/-- Number a reference that has no handle yet. -/
def issueRef (ref : ComponentRef) (next : Nat) : ComponentRef × Nat :=
  match ref.handle? with
  | some _ => (ref, next)
  | none => ({ ref with handle? := some next }, next + 1)

mutual

/-- Number every reference of a tree that has no handle yet, in document
order, from `next` up; return the next unused number too. -/
def issue : Node → Nat → Node × Nat
  | .element tag attrs cs, next =>
    let (cs, next) := issueAll cs next
    (.element tag attrs cs, next)
  | .component ref props cs, next =>
    let (ref, next) := issueRef ref next
    let (cs, next) := issueAll cs next
    (.component ref props cs, next)
  | .text t, next => (.text t, next)
  | .fragment cs, next =>
    let (cs, next) := issueAll cs next
    (.fragment cs, next)
termination_by structural n => n

/-- Number the references of several trees, one after the other. -/
def issueAll : List Node → Nat → List Node × Nat
  | [], next => ([], next)
  | n :: rest, next =>
    let (n, next) := issue n next
    let (rest, next) := issueAll rest next
    (n :: rest, next)
termination_by structural ns => ns

end

-- ======================================================= inspection text

mutual

/-- What an inspection text says of a tree. -/
def shown : Node → Shown
  | .element tag attrs cs =>
    .struct "Element"
      [("tag", .string tag), ("attrs", attrs.shown),
        ("children", .list (shownAll cs))]
  | .component ref props cs =>
    .struct "Component"
      [("name", .string ref.name), ("props", props.shown),
        ("children", .list (shownAll cs))]
  | .text t => .call "Text" [.string t]
  | .fragment cs => .call "Fragment" [.list (shownAll cs)]
termination_by structural n => n

/-- What is said of several trees. -/
def shownAll : List Node → List Shown
  | [] => []
  | n :: rest => shown n :: shownAll rest
termination_by structural ns => ns

end

end Node

end RuledList
