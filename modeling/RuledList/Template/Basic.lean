/-
Templates: render functions as data. A template builds a tree from
computed values, may choose between templates by a value, may put the
slot content of a component where it likes, and may perform actions on
the way. Attributes are computed before children are built, and
children are built from left to right.

A template is a render function of a rule (`Template.ruleFn`), of a
custom component (`Template.customFn`), or a tree of its own
(`Template.build` in a bare scope).
-/
import RuledList.Component.Definition
import RuledList.Template.Action

namespace RuledList

/-- A render function as data. -/
inductive Template where
  | text (content : String)
  /-- A text node with the plain text of a value. -/
  | plain (e : Template.Expr)
  | fragment (children : List Template)
  /-- The slot content, as a fragment. -/
  | slot
  /-- One template if a value is `true`, another if it is not. -/
  | choice (test : Template.Expr) (yes no : Template)
  /-- A template wrapped many times in an element, or in a fragment. -/
  | nest (times : Nat) (tag? : Option String) (child : Template)
  /-- Actions, recorded, before a template. -/
  | perform (actions : List Template.Action) (result : Template)
  | create (target : Target) (attributes : Template.Expr)
      (children : List Template)
  deriving Inhabited

namespace Template

/-- The attributes that a value gives: the fields of an object, and
none for anything else. -/
def attrsOfValue (v : Value) : Props :=
  (Props.ofValue? v).getD OrdMap.empty

/-- Wrap a tree many times. -/
def wrapTimes (tag? : Option String) : Nat → Node → Node
  | 0, n => n
  | times + 1, n =>
    wrapTimes tag? times <|
      match tag? with
      | some tag => .create (.tag tag) OrdMap.empty [n]
      | none => .fragment [n]

mutual

/-- The tree that a template builds, and the run afterwards. -/
def build (s : Scope) : Template → Run → Node × Run
  | .text t, r => (.text t, r)
  | .plain e, r => (.text (e.eval s r).plainText, r)
  | .fragment cs, r =>
    let (cs, r) := buildAll s cs r
    (.fragment cs, r)
  | .slot, r => (.fragment s.slot, r)
  | .choice test yes no, r =>
    match test.eval s r with
    | .bool true => build s yes r
    | _ => build s no r
  | .nest times tag? child, r =>
    let (n, r) := build s child r
    (wrapTimes tag? times n, r)
  | .perform actions result, r =>
    build s result (Action.recordAll s actions r)
  | .create target attributes cs, r =>
    let given := attrsOfValue (attributes.eval s r)
    let (cs, r) := buildAll s cs r
    (.create target given cs, r)
termination_by structural t => t

/-- The trees that several templates build, from left to right. -/
def buildAll (s : Scope) : List Template → Run → List Node × Run
  | [], r => ([], r)
  | t :: rest, r =>
    let (n, r) := build s t r
    let (ns, r) := buildAll s rest r
    (n :: ns, r)
termination_by structural ts => ts

end

/-- The render function of a rule that a template is. -/
def ruleFn (t : Template) : RenderFn :=
  fun props index around globals =>
    let (n, r) := t.build ⟨.rule index around, props, []⟩
      (.start (some globals))
    ⟨n, r.globals?.getD globals, r.attempts, r.observed⟩

/-- The render function of a custom component that a template is. It
leaves the shared globals alone. -/
def customFn (t : Template) : CustomFn :=
  fun props slot cells =>
    let (n, r) := t.build ⟨.plain, props, slot⟩ (.start none)
    ⟨n, cells, r.observed⟩

/-- The tree that a template builds where nothing is on offer, with what
its actions reported. -/
def standalone (t : Template) : Node × List Observation :=
  let (n, r) := t.build .bare (.start none)
  (n, r.observed)

end Template

end RuledList
