/-
Replacing invocations. `Node.replace` walks a tree in document order
and puts, for every invocation, whatever a given step makes of it; the
slot content of an invocation is walked before the invocation itself,
so the step always receives a slot without invocations left in it. The
step may change a state and may give up, and then the walk gives up.

The walk is structural, so it visits every invocation of the given tree
once and looks at nothing that a step returns.
-/
import RuledList.Node.Basic

namespace RuledList.Node

variable {σ : Type}

mutual

/-- Put the result of `step` in place of every invocation. -/
def replace (step : ComponentRef → Props → List Node →
    σ → Option (Node × σ)) : Node → σ → Option (Node × σ)
  | .element tag attrs cs, s =>
    (replaceAll step cs s).map fun (cs, s) => (.element tag attrs cs, s)
  | .component ref props cs, s =>
    (replaceAll step cs s).bind fun (slot, s) => step ref props slot s
  | .text t, s => some (.text t, s)
  | .fragment cs, s =>
    (replaceAll step cs s).map fun (cs, s) => (.fragment cs, s)
termination_by structural n => n

/-- Put results in place of the invocations of sibling trees, from left
to right. -/
def replaceAll (step : ComponentRef → Props → List Node →
    σ → Option (Node × σ)) : List Node → σ → Option (List Node × σ)
  | [], s => some ([], s)
  | n :: rest, s =>
    (replace step n s).bind fun (n, s) =>
      (replaceAll step rest s).map fun (rest, s) => (n :: rest, s)
termination_by structural ns => ns

end

/-- Expand a tree fully: every invocation is replaced by its rendered
output, which is expanded in turn. `depth` bounds how far outputs may
lead to further outputs; a tree that needs more is given up. -/
def expandWith (render : ComponentRef → Props → List Node →
    σ → Option (Node × σ)) : (depth : Nat) → Node → σ → Option (Node × σ)
  | 0 => replace fun _ _ _ _ => none
  | depth + 1 => replace fun ref props slot s =>
    (render ref props slot s).bind fun (out, s) =>
      expandWith render depth out s

end RuledList.Node
