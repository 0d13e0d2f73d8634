/-
What lies around the instances of a run: the shared globals maps, the
next unused handle, and the record of notices and observations. All
instances of a run share one ambient, and it is the only thing they
share.
-/
import RuledList.Globals.Cells
import RuledList.Node.Basic
import RuledList.Notice
import RuledList.Observation

namespace RuledList

/-- The surroundings of a run. -/
structure Ambient where
  /-- The globals maps that functional components share. -/
  cells : Cells
  /-- The first handle that no reference has. -/
  nextHandle : Nat
  /-- What has been told, oldest first. -/
  notices : List Notice
  /-- What actions have reported, oldest first. -/
  observed : List Observation

namespace Ambient

/-- The surroundings of a run that is about to begin. -/
def start : Ambient := ⟨.empty, 0, [], []⟩

/-- Tell something. -/
def tell (a : Ambient) (n : Notice) : Ambient :=
  { a with notices := a.notices ++ [n] }

/-- Tell several things, in order. -/
def tellAll (a : Ambient) (ns : List Notice) : Ambient :=
  { a with notices := a.notices ++ ns }

/-- Record reports of actions. -/
def observe (a : Ambient) (os : List Observation) : Ambient :=
  { a with observed := a.observed ++ os }

/-- Give out a handle. -/
def newHandle (a : Ambient) : Nat × Ambient :=
  (a.nextHandle, { a with nextHandle := a.nextHandle + 1 })

/-- Number a reference that has no handle yet. -/
def issueRef (a : Ambient) (ref : ComponentRef) : ComponentRef × Ambient :=
  let (ref, next) := Node.issueRef ref a.nextHandle
  (ref, { a with nextHandle := next })

/-- Number the references of a tree that have no handle yet. -/
def issue (a : Ambient) (n : Node) : Node × Ambient :=
  let (n, next) := n.issue a.nextHandle
  (n, { a with nextHandle := next })

/-- Number the references of several trees. -/
def issueAll (a : Ambient) (ns : List Node) : List Node × Ambient :=
  let (ns, next) := Node.issueAll ns a.nextHandle
  (ns, { a with nextHandle := next })

/-- Hand over the record of notices and observations. -/
def handOver (a : Ambient) : (List Notice × List Observation) × Ambient :=
  ((a.notices, a.observed), { a with notices := [], observed := [] })

end Ambient

end RuledList
