/-
What the rendered items of an instance are wrapped in, and what the
wrapping is handed. A wrapping component is handed one map collected
from two, what is bound and the attributes. Collecting would lose an
entry if a name stood in both, or would hand on the list of items if it
stood in either. That neither ever happens is no matter of collecting:
it rests on what an instance keeps from its mount on, whatever is done
to it (`Instance.Views`).

# The map

`Forwards` says what is handed on: all that the instance holds, in its
order, and that is the flat map that it shows, without the list of
items. Names of a view do not repeat, because both parts are filters of
one map and no name passes both filters; so collecting them is putting
one behind the other (`Views.forwards`).

# The wrapping

The wrapping is looked at once, after everything has been rendered.
`Moment.wrappedIn` is a moment with another wrapping, and everything that
can be done to an instance is done to it alike
(`Moment.finish_wrappedIn`). So an instance and the same instance in
another wrapping render the same trees, and differ at the root.
-/
import Mathlib.Data.List.Basic
import RuledList.Proofs.Instance.FlatMap
import RuledList.Proofs.Node.Expansion
import RuledList.Proofs.Rule.Order

namespace RuledList

-- ============================================================== the map

/-- A map is what an instance that shows another map hands on. -/
structure Forwards (i : Instance) (shown forwarded : Props) : Prop where
  /-- What is bound, in its order, and then the attributes, in theirs. -/
  entries : forwarded.entries = i.bound.entries ++ i.attrs.entries
  /-- Nothing of the map that is shown is lost, and nothing is added. -/
  all : forwarded.entries.Perm shown.withoutData
  /-- Every name has the value that it has in the map that is shown. -/
  value : ∀ name, forwarded.get? name
    = if name = dataName then none else shown.get? name
  /-- And that is what is bound to it, or else what was passed. -/
  held : ∀ name, forwarded.get? name
    = (i.bound.get? name).or (i.attrs.get? name)

/-- The entries of a map other than the list of items. -/
theorem Props.mem_withoutData {p : Props} {name : String} {v : Value} :
    (name, v) ∈ p.withoutData
      ↔ name ≠ dataName ∧ p.get? name = some v := by
  unfold Props.withoutData
  rw [List.mem_filter, bne_iff_ne, OrdMap.get?_eq_some_iff, and_comm]

/-- A map that has no list of items among its entries. -/
theorem Props.withoutData_eq {p : Props}
    (h : p.contains dataName = false) : p.withoutData = p.entries := by
  refine List.filter_eq_self.2 fun e he => bne_iff_ne.2 fun hname => ?_
  have hin : p.contains dataName = true :=
    OrdMap.contains_iff.2 (List.mem_map.2 ⟨e, he, hname⟩)
  rw [h] at hin
  cases hin

/-- Splitting a map by a surface takes it apart, but for the list of
items. -/
theorem Surface.split_perm (s : Surface) (p : Props) :
    ((Instance.boundOf s p).entries
      ++ (Instance.attrsOf s p).entries).Perm p.withoutData := by
  have hbound : (Instance.boundOf s p).entries
      = p.withoutData.filter fun e => s.properties.contains e.1 := by
    unfold Props.withoutData
    rw [List.filter_filter]
    exact List.filter_congr fun e _ => Bool.and_comm _ _
  have hattrs : (Instance.attrsOf s p).entries
      = p.withoutData.filter fun e => !s.properties.contains e.1 := by
    unfold Props.withoutData
    rw [List.filter_filter]
    exact List.filter_congr fun e _ => Bool.and_comm _ _
  rw [hbound, hattrs]
  exact List.filter_append_perm _ _

namespace Instance.Views

variable {i : Instance} {p : Props}

/-- What a view hands on is what it shows. -/
theorem forwards (h : i.Views p) :
    Forwards i p (forwardedProps i.bound i.attrs) := by
  have hperm : (i.bound.entries ++ i.attrs.entries).Perm
      p.withoutData := by
    rw [h.bound, h.attrs]
    exact i.definition.surface.split_perm p
  have hnodup : (entryNames (i.bound.entries ++ i.attrs.entries)).Nodup :=
    (hperm.map Prod.fst).nodup_iff.2
      ((List.filter_sublist.map Prod.fst).nodup p.nodup)
  have hentries : (forwardedProps i.bound i.attrs).entries
      = i.bound.entries ++ i.attrs.entries := by
    unfold forwardedProps
    rw [Props.withoutData_eq (h.not_bound (.inl rfl)),
      Props.withoutData_eq (h.not_attr (.inl rfl))]
    exact OrdMap.entries_ofList hnodup
  have hall : (forwardedProps i.bound i.attrs).entries.Perm
      p.withoutData := by
    rw [hentries]
    exact hperm
  refine ⟨hentries, hall, fun name => ?_, fun name => ?_⟩
  · refine Option.ext fun v => ?_
    rw [OrdMap.get?_eq_some_iff, hall.mem_iff, Props.mem_withoutData]
    by_cases hname : name = dataName <;> simp [hname]
  · refine Option.ext fun v => ?_
    rw [OrdMap.get?_eq_some_iff, hentries, List.mem_append,
      ← OrdMap.get?_eq_some_iff, ← OrdMap.get?_eq_some_iff]
    cases hget : i.bound.get? name with
    | none => simp
    | some w =>
        have hin : i.bound.contains name = true :=
          congrArg Option.isSome hget
        have hout : i.attrs.get? name = none := by
          have hno := h.not_attr
            (.inr (Surface.isBindable_iff.1 (h.isBindable_of_bound hin)).2)
          unfold OrdMap.contains at hno
          rwa [Option.isSome_eq_false_iff, Option.isNone_iff_eq_none] at hno
        simp [hout]

end Instance.Views

-- ========================================================= the wrapping

/-- A component with another wrapping. -/
def Definition.wrappedIn (d : Definition) (c : Container) : Definition :=
  { d with config := { d.config with container := c } }

namespace Instance

/-- An instance in another wrapping. -/
def wrappedIn (i : Instance) (c : Container) : Instance :=
  { i with definition := i.definition.wrappedIn c }

/-- What mounts does so in any wrapping. -/
theorem mount_wrappedIn {component : Nat} {d : Definition} {p : Props}
    {a b : Ambient} {i : Instance}
    (h : mount component d p a = (.ok i, b)) (c : Container) :
    mount component (d.wrappedIn c) p a = (.ok (i.wrappedIn c), b) := by
  unfold mount at h ⊢
  cases hp : passedItems p with
  | error e =>
      rw [hp] at h
      cases h
  | ok data =>
      rw [hp] at h
      cases h
      rfl

/-- The tree of a render pass: the wrapped trees of the items. -/
theorem node_renderPass (i : Instance) (a : Ambient) :
    let out := Pass.renderItems i.definition.registry i.bound i.attrs
      i.data (.start (i.readGlobals a) i.emitter)
    (i.renderPass a).1.node = i.definition.config.container.wrap
      (Node.issueAll out.1 a.nextHandle).1
      (forwardedProps i.bound i.attrs) := by
  unfold renderPass writeGlobals
  cases i.globals <;> rfl

/-- A render pass in another wrapping reports the same positions and
leaves the same behind. -/
theorem renderPass_wrappedIn (i : Instance) (c : Container)
    (a : Ambient) :
    ((i.wrappedIn c).renderPass a).1.unmatched
        = (i.renderPass a).1.unmatched
      ∧ ((i.wrappedIn c).renderPass a).2
        = ((i.renderPass a).2.1.wrappedIn c, (i.renderPass a).2.2) := by
  obtain ⟨component, d, bound, attrs, data, globals, emitter⟩ := i
  cases globals <;> exact ⟨rfl, rfl⟩

end Instance

namespace Moment

/-- A moment in another wrapping. -/
def wrappedIn (m : Moment) (c : Container) : Moment :=
  { m with self := m.self.wrappedIn c }

/-- No move looks at the wrapping. -/
theorem after_wrappedIn (m : Moment) (c : Container) (move : Move) :
    (m.wrappedIn c).after move = (m.after move).wrappedIn c := by
  cases move with
  | renderPass =>
      have h := (m.self.renderPass_wrappedIn c m.around).2
      exact congrArg (fun left => Moment.mk left.1 left.2) h
  | setProp name v =>
      have hsurface : (m.wrappedIn c).self.definition.surface
          = m.self.definition.surface := rfl
      simp only [after, Instance.setProp, hsurface]
      split <;> rfl
  | setDataValue v =>
      simp only [after, Instance.setDataValue]
      split <;> rfl
  | takeEvents => rfl
  | syncBindings => rfl
  | unsetProp name => rfl
  | setData data => rfl
  | elsewhere around => rfl

theorem finish_wrappedIn (c : Container) (moves : List Move) :
    ∀ m : Moment,
      (m.wrappedIn c).finish moves = (m.finish moves).wrappedIn c := by
  induction moves with
  | nil => intro m; rfl
  | cons move rest ih =>
      intro m
      show ((m.wrappedIn c).after move).finish rest = _
      rw [after_wrappedIn]
      exact ih (m.after move)

end Moment

-- =========================================================== main result

/-- After any run from a mount there is one map to be handed on and one
list of trees, in the order of the items, whatever the instance is
wrapped in. The map holds what is bound, in its order, then the
attributes that were passed, in theirs; that is the map that was passed
with the changes of the run made to it, `data` left out, and no name of
it is lost, added or given another value. The trees are those of the
items that some rule is for.

The tree of the instance has a root made of its wrapping, with those
trees as children: an invocation that is handed the map, an element
without attributes, or a fragment. The same component in any wrapping
mounts from the same map, runs the same way, reports the same positions,
and its tree differs in the root alone. Expanding the invocation calls
the wrapping component with that map, and with the expanded trees for
slot content. -/
theorem wrapping_is_handed_all_but_data {component : Nat}
    {d : Definition} {p : Props} {a b : Ambient} {i : Instance}
    (hmount : Instance.mount component d p a = (.ok i, b))
    (moves : List Move) :
    let m := Moment.finish ⟨i, b⟩ moves
    let unmatched := (m.self.renderPass m.around).1.unmatched
    ∃ forwarded nodes children,
      let root : Container → Node := fun
        | .component w => .component w forwarded children
        | .tag t => .element t OrdMap.empty children
        | .none => .fragment children
      Forwards m.self
        (Edit.applyAll p (Moment.editsOf ⟨i, b⟩ moves)) forwarded
      ∧ m.self.attrs = Instance.attrsOf d.surface p
      ∧ List.Forall₂
          (Pass.RendersAt d.registry m.self.bound m.self.attrs 0
            m.self.data (.start m.globals m.self.emitter))
          ((List.range m.self.data.length).filter fun k => k ∉ unmatched)
          nodes
      ∧ children = (Node.issueAll nodes m.around.nextHandle).1
      ∧ (m.self.renderPass m.around).1.node = root d.config.container
      ∧ (∀ c, ∃ j,
          Instance.mount component (d.wrappedIn c) p a = (.ok j, b)
          ∧ let n := Moment.finish ⟨j, b⟩ moves
            (n.self.renderPass n.around).1.node = root c
            ∧ (n.self.renderPass n.around).1.unmatched = unmatched)
      ∧ ∀ {σ : Type} (render : ComponentRef → Props → List Node → σ →
            Option (Node × σ)) (w : ComponentRef) (depth : Nat)
          (s s' : σ) (tree : Node),
        (root (.component w)).expandWith render depth s
            = some (tree, s') ↔
          ∃ rest slot s₁ out s₂, depth = rest + 1
            ∧ (Node.fragment children).expandWith render depth s
              = some (.fragment slot, s₁)
            ∧ render w forwarded slot s₁ = some (out, s₂)
            ∧ out.expandWith render rest s₂ = some (tree, s') := by
  intro m unmatched
  obtain ⟨data, hdata, rfl, -⟩ := Instance.mount_inv hmount
  obtain ⟨-, hdef, -⟩ := Moment.steps_keep
    ⟨Instance.mounted component d p data, b⟩ moves
  have hviews : m.self.Views
      (Edit.applyAll p (Moment.editsOf ⟨_, b⟩ moves)) :=
    Moment.views_finish moves (Instance.views_mounted component d hdata)
  have hregistry : m.self.definition.registry = d.registry :=
    congrArg Definition.registry hdef
  have hcontainer : m.self.definition.config.container
      = d.config.container :=
    congrArg (fun d => d.config.container) hdef
  have hunmatched : unmatched
      = d.registry.unmatchedFrom 0 m.self.data := by
    rw [← hregistry]
    exact Pass.unmatched_renderFrom m.self.definition.registry
      m.self.bound m.self.attrs m.self.data 0 _
  let nodes := (Pass.renderItems m.self.definition.registry m.self.bound
    m.self.attrs m.self.data (.start m.globals m.self.emitter)).1
  refine ⟨forwardedProps m.self.bound m.self.attrs, nodes,
    (Node.issueAll nodes m.around.nextHandle).1, ?_⟩
  intro root
  refine ⟨hviews.forwards, Moment.finish_attrs _ moves, ?_, rfl, ?_,
    fun c => ?_,
    fun render w depth s s' tree => Node.expandWith_component⟩
  · rw [hunmatched, List.range_eq_range', ← hregistry]
    exact Pass.rendersAt_renderFrom m.self.data 0 _
  · rw [Instance.node_renderPass, hcontainer]
    cases d.config.container <;> rfl
  · have hrun : Moment.finish ⟨_, b⟩ moves = m.wrappedIn c :=
      Moment.finish_wrappedIn c moves ⟨_, b⟩
    refine ⟨_, Instance.mount_wrappedIn hmount c, ?_⟩
    intro n
    have hn : n = m.wrappedIn c := hrun
    rw [hn]
    refine ⟨?_, (m.self.renderPass_wrappedIn c m.around).1⟩
    rw [Instance.node_renderPass]
    cases c <;> rfl

/-- What a gauge in a frame is mounted from: items, a size and a
class. -/
def framedProps : Props := (gaugeProps 1).insert "class" (.string "x")

/-- The gauge asks for its size to be increased, and its frame is handed
the new size, and behind it the class. -/
theorem frame_is_handed_size_and_class :
    let frame : ComponentRef := ⟨1, "Frame", some 0⟩
    ∃ i, Instance.mount 0 (gauge.wrappedIn (.component frame)) framedProps
        .start = (.ok i, .start)
      ∧ let m := Moment.finish ⟨i, .start⟩ [.renderPass, .syncBindings]
        ∃ forwarded children,
          (m.self.renderPass m.around).1.node
            = .component frame forwarded children
          ∧ (forwarded.entries.map fun e => (e.1, e.2.text))
            = [("size", "2"), ("class", "\"x\"")] := by
  intro frame
  have hmount : Instance.mount 0 (gauge.wrappedIn (.component frame))
      framedProps .start
      = (.ok (.mounted 0 (gauge.wrappedIn (.component frame)) framedProps
          [OrdMap.empty.insert "a" (.bool true)]), .start) := rfl
  obtain ⟨forwarded, nodes, children, hforwards, -, -, -, hnode, -, -⟩ :=
    wrapping_is_handed_all_but_data hmount [.renderPass, .syncBindings]
  refine ⟨_, hmount, forwarded, children, hnode, ?_⟩
  rw [hforwards.entries]
  decide +kernel

end RuledList
