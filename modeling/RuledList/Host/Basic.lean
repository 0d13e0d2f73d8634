/-
Hosts. A host keeps mounted instances under names and a log of what
happened to them: mounted, updated, unmounted. The log grows until it
is drained. An operation on a name that names no instance fails.

A `World` is a host with its surroundings. Every operation answers
beside the world it leaves, whether it succeeds or fails.
-/
import RuledList.Host.Arena
import RuledList.Instance.Bindings
import RuledList.Instance.Render

namespace RuledList

/-- Why an operation of a host fails. -/
inductive HostError where
  /-- The name names no instance. -/
  | unknownInstance (id : InstanceId)
  /-- Properties could not be bound. -/
  | binding (error : BindingError)

namespace HostError

/-- The error in words. -/
def message : HostError → String
  | .unknownInstance id => "no mounted instance " ++ id.text
  | .binding e => e.message

end HostError

/-- Something that happened to an instance. -/
inductive Lifecycle where
  | mount (id : InstanceId)
  | unmount (id : InstanceId)
  | update (id : InstanceId)
  deriving DecidableEq

namespace Lifecycle

/-- The instance that something happened to. -/
def id : Lifecycle → InstanceId
  | .mount id => id
  | .unmount id => id
  | .update id => id

/-- What an inspection text says of what happened. -/
def shown : Lifecycle → Shown
  | .mount id => .struct "Mount" [("id", id.shown)]
  | .unmount id => .struct "Unmount" [("id", id.shown)]
  | .update id => .struct "Update" [("id", id.shown)]

end Lifecycle

/-- Mounted instances and the log of what happened to them. -/
structure Host where
  arena : Arena Instance
  /-- What happened since the log was last drained, oldest first. -/
  log : List Lifecycle

/-- A host and its surroundings. -/
structure World where
  host : Host
  ambient : Ambient

namespace World

/-- A host without instances in given surroundings. -/
def start (a : Ambient) : World := ⟨⟨.empty, []⟩, a⟩

-- ============================================================ the parts

/-- The instance with a name. -/
def get? (w : World) (id : InstanceId) : Option Instance :=
  w.host.arena.get? id

/-- Replace the instance with a name. -/
def put (w : World) (id : InstanceId) (i : Instance) : World :=
  { w with host.arena := w.host.arena.replace id i }

/-- Change the instance with a name behind the log's back. -/
def edit (w : World) (id : InstanceId) (f : Instance → Instance) : World :=
  match w.get? id with
  | none => w
  | some i => w.put id (f i)

/-- Add to the log. -/
def record (w : World) (event : Lifecycle) : World :=
  { w with host.log := w.host.log ++ [event] }

-- ============================================ mounting and unmounting

/-- Mount a component under a new name. -/
def mount (w : World) (component : Nat) (d : Definition)
    (passed : Props) : Except HostError InstanceId × World :=
  match Instance.mount component d passed w.ambient with
  | (.error e, ambient) => (.error (.binding e), { w with ambient })
  | (.ok i, ambient) =>
    let (id, arena) := w.host.arena.insert i
    (.ok id,
      World.record
        ⟨{ w.host with arena }, ambient.tell (.mounted id)⟩ (.mount id))

/-- Unmount an instance; it comes first. -/
def unmount (w : World) (id : InstanceId) : Option Instance × World :=
  match w.host.arena.remove id with
  | none => (none, w)
  | some (i, arena) =>
    (some i,
      World.record
        ⟨{ w.host with arena }, w.ambient.tell (.unmounted id)⟩
        (.unmount id))

/-- Unmount every instance, in the order of their slots. -/
def clear (w : World) : World :=
  w.host.arena.ids.foldl (fun w id => (w.unmount id).2) w

-- ============================================================ operations

/-- Run a render pass of an instance. -/
def renderPass (w : World) (id : InstanceId) :
    Except HostError RenderOutput × World :=
  match w.get? id with
  | none => (.error (.unknownInstance id), w)
  | some i =>
    let (out, i, ambient) := i.renderPass w.ambient
    (.ok out, { w with ambient }.put id i)

/-- Run a render pass of an instance and keep only the tree. -/
def render (w : World) (id : InstanceId) : Except HostError Node × World :=
  let (out, w) := w.renderPass id
  (out.map RenderOutput.node, w)

/-- Replace the list of items of an instance. -/
def setData (w : World) (id : InstanceId) (data : List Props) :
    Except HostError Unit × World :=
  match w.get? id with
  | none => (.error (.unknownInstance id), w)
  | some i => (.ok (), (w.put id (i.setData data)).record (.update id))

/-- Bind a property of an instance. -/
def setProp (w : World) (id : InstanceId) (name : String) (v : Value) :
    Except HostError Unit × World :=
  match w.get? id with
  | none => (.error (.unknownInstance id), w)
  | some i =>
    match i.setProp name v with
    | (.error e, _) => (.error (.binding e), w)
    | (.ok (), i) => (.ok (), (w.put id i).record (.update id))

/-- Whether two lists of items are equal, item by item. -/
def sameItems : List Props → List Props → Bool
  | [], [] => true
  | a :: as, b :: bs => a.same b && sameItems as bs
  | _, _ => false

/-- Apply the events of an instance that ask for a binding and hand over
the others. An update is logged when that changed what is bound or the
list of items, as equality of values sees it. -/
def syncBindings (w : World) (id : InstanceId) :
    Except HostError (List Event) × World :=
  match w.get? id with
  | none => (.error (.unknownInstance id), w)
  | some before =>
    let (rest, i, ambient) := before.syncBindings w.ambient
    let unchanged :=
      i.bound.same before.bound && sameItems i.data before.data
    let w := { w with ambient }.put id i
    (.ok rest, if unchanged then w else w.record (.update id))

/-- Drain the log. -/
def drainLog (w : World) : List Lifecycle × World :=
  (w.host.log, { w with host.log := [] })

end World

end RuledList
