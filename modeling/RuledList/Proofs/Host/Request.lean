/-
Requests to mounted instances. A host answers a request in two ways. A
name that names nobody is refused, and nothing happens
(`World.request_refused`). A name that names an instance is served, and
what that comes to is a matter of the instance and of the globals that
it reads, whatever else is mounted (`Request.serve`,
`World.request_served`).

# What serving touches

An instance that shares its globals has a cell (`Instance.cell?`).
Serving a request writes to no other cell (`Request.serve_frame`), and
looks at no other cell (`Request.serve_alike`): in surroundings that
agree about it the answers agree, but for the handles of references, and
so does what is left of the instance.
-/
import RuledList.Host.Basic
import RuledList.Proofs.Component.Sharing
import RuledList.Proofs.Host.Arena
import RuledList.Proofs.Instance.Binding
import RuledList.Proofs.Instance.Mount
import RuledList.Proofs.Instance.Output

namespace RuledList

-- ============================================================ instances

namespace Instance

/-- An instance comes from where another one comes from, and shares what
that one shares. -/
structure Kin (j i : Instance) : Prop where
  component : j.component = i.component
  definition : j.definition = i.definition
  cell? : j.cell? = i.cell?

theorem Kin.refl (i : Instance) : i.Kin i := ⟨rfl, rfl, rfl⟩

theorem setProp_kin (i : Instance) (name : String) (v : Value) :
    (i.setProp name v).2.Kin i := by
  unfold setProp
  split
  · exact ⟨rfl, rfl, rfl⟩
  · exact .refl i

/-- A render pass does not touch where an instance comes from, and leaves
alone the cells that it does not share. -/
theorem renderPass_frame (i : Instance) (a : Ambient) :
    (i.renderPass a).2.1.Kin i
      ∧ ∀ cell, i.cell? ≠ some cell →
        (i.renderPass a).2.2.cells.map? cell = a.cells.map? cell := by
  obtain ⟨component, d, bound, attrs, data, globals, emitter⟩ := i
  cases globals with
  | own g => exact ⟨⟨rfl, rfl, rfl⟩, fun _ _ => rfl⟩
  | shared c =>
      refine ⟨⟨rfl, rfl, rfl⟩, fun cell hcell => ?_⟩
      exact Cells.map?_write_other a.cells _ fun heq =>
        hcell (congrArg some heq)

/-- In surroundings that agree about the cell that an instance shares, a
render pass makes the same output but for handles, leaves the same
instance, and leaves the surroundings in agreement about the cell. -/
theorem renderPass_alike {i : Instance} {a b : Ambient}
    (h : ∀ cell, i.cell? = some cell →
      a.cells.map? cell = b.cells.map? cell) :
    (i.renderPass a).1.anonymous = (i.renderPass b).1.anonymous
      ∧ (i.renderPass a).2.1 = (i.renderPass b).2.1
      ∧ ∀ cell, i.cell? = some cell →
        (i.renderPass a).2.2.cells.map? cell
          = (i.renderPass b).2.2.cells.map? cell := by
  have hread := readGlobals_congr h
  refine ⟨?_, ?_, fun cell hcell => ?_⟩
  · rw [anonymous_renderPass, anonymous_renderPass, hread]
  · unfold renderPass writeGlobals
    rw [hread]
    cases i.globals with
    | own g => rfl
    | shared c => rfl
  · have hsame := h cell hcell
    unfold cell? at hcell
    unfold renderPass writeGlobals
    rw [hread]
    cases hg : i.globals with
    | own g => rw [hg] at hcell; cases hcell
    | shared c =>
        rw [hg] at hcell
        cases hcell
        refine (Cells.map?_write_self a.cells _ _).trans
          (Eq.trans ?_ (Cells.map?_write_self b.cells _ _).symm)
        rw [hsame]

end Instance

-- ============================================================= requests

/-- One thing that is asked of a mounted instance. -/
inductive Request where
  | unmount
  | render
  | renderPass
  | setData (data : List Props)
  | setProp (name : String) (v : Value)
  | syncBindings

/-- What an operation of a host answers. -/
inductive Reply where
  /-- The component to mount is not defined. -/
  | undefined
  | mounted (result : Except HostError InstanceId)
  | unmounted (result : Option Instance)
  | rendered (result : Except HostError Node)
  | passed (result : Except HostError RenderOutput)
  | written (result : Except HostError Unit)
  | synced (result : Except HostError (List Event))
  | cleared
  | drained (log : List Lifecycle)

/-- An error without the name that it reports. -/
def HostError.anonymous : HostError → HostError
  | .unknownInstance _ => .unknownInstance .null
  | .binding e => .binding e

/-- An answer without the names of instances and the handles of
references. -/
def Reply.anonymous : Reply → Reply
  | .mounted r => .mounted ((r.map fun _ => .null).mapError .anonymous)
  | .rendered r => .rendered ((r.map .anonymous).mapError .anonymous)
  | .passed r => .passed ((r.map .anonymous).mapError .anonymous)
  | .written r => .written (r.mapError .anonymous)
  | .synced r => .synced (r.mapError .anonymous)
  | .drained _ => .drained []
  | reply => reply

/-- Make a request to the instance with a name. -/
def World.request (w : World) (id : InstanceId) : Request → Reply × World
  | .unmount => let (r, w) := w.unmount id; (.unmounted r, w)
  | .render => let (r, w) := w.render id; (.rendered r, w)
  | .renderPass => let (r, w) := w.renderPass id; (.passed r, w)
  | .setData data => let (r, w) := w.setData id data; (.written r, w)
  | .setProp name v => let (r, w) := w.setProp id name v; (.written r, w)
  | .syncBindings => let (r, w) := w.syncBindings id; (.synced r, w)

/-- What comes of a request that is served. -/
structure Served where
  reply : Reply
  /-- What is left of the instance: nothing once it is unmounted. -/
  left? : Option Instance
  /-- The shared globals maps afterwards. -/
  cells : Cells

namespace Request

/-- The answer to a request under a name that names nobody. -/
def refused (id : InstanceId) : Request → Reply
  | .unmount => .unmounted none
  | .render => .rendered (.error (.unknownInstance id))
  | .renderPass => .passed (.error (.unknownInstance id))
  | .setData _ => .written (.error (.unknownInstance id))
  | .setProp _ _ => .written (.error (.unknownInstance id))
  | .syncBindings => .synced (.error (.unknownInstance id))

/-- What comes of a request to an instance. -/
def serve (i : Instance) (a : Ambient) : Request → Served
  | .unmount => ⟨.unmounted (some i), none, a.cells⟩
  | .render =>
    let (out, i, a) := i.renderPass a
    ⟨.rendered (.ok out.node), some i, a.cells⟩
  | .renderPass =>
    let (out, i, a) := i.renderPass a
    ⟨.passed (.ok out), some i, a.cells⟩
  | .setData data => ⟨.written (.ok ()), some (i.setData data), a.cells⟩
  | .setProp name v =>
    let (r, i) := i.setProp name v
    ⟨.written (r.mapError .binding), some i, a.cells⟩
  | .syncBindings =>
    let (rest, i, a) := i.syncBindings a
    ⟨.synced (.ok rest), some i, a.cells⟩

theorem refused_anonymous (id id' : InstanceId) (r : Request) :
    (r.refused id).anonymous = (r.refused id').anonymous := by
  cases r <;> rfl

/-- Serving a request leaves kin of the instance, if anyone, and leaves
alone the cells that the instance does not share. -/
theorem serve_frame (i : Instance) (a : Ambient) (r : Request) :
    (∀ j, (r.serve i a).left? = some j → j.Kin i)
      ∧ ∀ cell, i.cell? ≠ some cell →
        (r.serve i a).cells.map? cell = a.cells.map? cell := by
  cases r with
  | unmount => exact ⟨fun _ hj => (nomatch hj), fun _ _ => rfl⟩
  | render =>
      obtain ⟨hkin, hcells⟩ := i.renderPass_frame a
      exact ⟨fun j hj => by cases hj; exact hkin, hcells⟩
  | renderPass =>
      obtain ⟨hkin, hcells⟩ := i.renderPass_frame a
      exact ⟨fun j hj => by cases hj; exact hkin, hcells⟩
  | setData data =>
      exact ⟨fun j hj => by cases hj; exact ⟨rfl, rfl, rfl⟩,
        fun _ _ => rfl⟩
  | setProp name v =>
      refine ⟨fun j hj => ?_, fun _ _ => rfl⟩
      have hj' : some (i.setProp name v).2 = some j := hj
      cases hj'
      exact i.setProp_kin name v
  | syncBindings =>
      exact ⟨fun j hj => by cases hj; exact ⟨rfl, rfl, rfl⟩,
        fun _ _ => rfl⟩

/-- In surroundings that agree about the cell that an instance shares,
serving a request comes to the same. -/
theorem serve_alike {i : Instance} {a b : Ambient}
    (h : ∀ cell, i.cell? = some cell →
      a.cells.map? cell = b.cells.map? cell) (r : Request) :
    (r.serve i a).reply.anonymous = (r.serve i b).reply.anonymous
      ∧ (r.serve i a).left? = (r.serve i b).left?
      ∧ ∀ cell, i.cell? = some cell →
        (r.serve i a).cells.map? cell = (r.serve i b).cells.map? cell := by
  cases r with
  | unmount => exact ⟨rfl, rfl, h⟩
  | render =>
      obtain ⟨hout, hleft, hcells⟩ := Instance.renderPass_alike h
      refine ⟨?_, congrArg some hleft, hcells⟩
      exact congrArg (fun out => Reply.rendered (.ok out.node)) hout
  | renderPass =>
      obtain ⟨hout, hleft, hcells⟩ := Instance.renderPass_alike h
      refine ⟨?_, congrArg some hleft, hcells⟩
      exact congrArg (fun out => Reply.passed (.ok out)) hout
  | setData data => exact ⟨rfl, rfl, h⟩
  | setProp name v => exact ⟨rfl, rfl, h⟩
  | syncBindings => exact ⟨rfl, rfl, h⟩

end Request

-- ================================================================ hosts

namespace World

open Arena (Apart)

/-- A request under a name that names nobody is refused, and nothing
happens. -/
theorem request_refused {w : World} {id : InstanceId}
    (h : w.get? id = none) (r : Request) :
    w.request id r = (r.refused id, w) := by
  have hremove : w.host.arena.remove id = none := Arena.remove_none h
  cases r with
  | unmount => simp only [request, unmount, hremove, Request.refused]
  | render =>
      simp only [request, render, renderPass, h]
      rfl
  | renderPass => simp only [request, renderPass, h, Request.refused]
  | setData data => simp only [request, setData, h, Request.refused]
  | setProp name v => simp only [request, setProp, h, Request.refused]
  | syncBindings =>
      simp only [request, syncBindings, h, Request.refused]

theorem put_spec {w : World} (hs : w.host.arena.Sound) {id : InstanceId}
    {i : Instance} (h : w.get? id = some i) (j : Instance) :
    (w.put id j).get? id = some j
      ∧ Apart w.host.arena (w.put id j).host.arena id :=
  Arena.replace_spec hs h j

/-- A request under the name of an instance is served to that instance
alone. -/
theorem request_served {w : World} (hs : w.host.arena.Sound)
    {id : InstanceId} {i : Instance} (h : w.get? id = some i)
    (r : Request) :
    (w.request id r).1 = (r.serve i w.ambient).reply
      ∧ (w.request id r).2.get? id = (r.serve i w.ambient).left?
      ∧ (w.request id r).2.ambient.cells = (r.serve i w.ambient).cells
      ∧ Apart w.host.arena (w.request id r).2.host.arena id := by
  cases r with
  | unmount =>
      obtain ⟨arena, hremove, hgone, hapart⟩ := Arena.remove_spec hs h
      simp only [request, unmount, hremove]
      exact ⟨rfl, hgone, rfl, hapart⟩
  | render =>
      obtain ⟨hget, hapart⟩ :=
        put_spec hs h (i.renderPass w.ambient).2.1
      simp only [request, render, renderPass, h]
      exact ⟨rfl, hget, rfl, hapart⟩
  | renderPass =>
      obtain ⟨hget, hapart⟩ :=
        put_spec hs h (i.renderPass w.ambient).2.1
      simp only [request, renderPass, h]
      exact ⟨rfl, hget, rfl, hapart⟩
  | setData data =>
      obtain ⟨hget, hapart⟩ := put_spec hs h (i.setData data)
      simp only [request, setData, h]
      exact ⟨rfl, hget, rfl, hapart⟩
  | setProp name v =>
      obtain ⟨hget, hapart⟩ := put_spec hs h (i.setProp name v).2
      simp only [request, setProp, h, Request.serve]
      cases hset : i.setProp name v with
      | mk result j =>
          rw [hset] at hget hapart
          cases result with
          | ok _ => exact ⟨rfl, hget, rfl, hapart⟩
          | error e =>
              -- the host writes nothing back, and nothing changed
              have hj : j = i := by
                have hkept := Instance.setProp_error
                  (congrArg Prod.fst hset)
                rwa [hset] at hkept
              rw [hj]
              exact ⟨rfl, h, rfl, .refl hs id⟩
  | syncBindings =>
      obtain ⟨hget, hapart⟩ :=
        put_spec hs h (i.syncBindings w.ambient).2.1
      simp only [request, syncBindings, h]
      split
      · exact ⟨rfl, hget, rfl, hapart⟩
      · exact ⟨rfl, hget, rfl, hapart⟩

end World

end RuledList
