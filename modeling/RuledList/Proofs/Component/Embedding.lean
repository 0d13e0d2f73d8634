/-
Embedding a component and mounting it agree. A produced component that
stands in a tree is rendered by an instance that lives for one pass: it
is mounted, rendered, and forgotten. So expanding the tree comes to what
mounting by hand, one render pass and expanding the result come to
(`embedding_agrees_with_mounting`).

# Terminating expansions

`Catalog.Expands` says that an expansion ends, at whatever depth, and
`Catalog.Yields` forgets all of the surroundings that it leaves but the
shared globals. Neither leaves a choice: an expansion that ends at two
depths ends in the same way at both (`Expands.unique`).

# What is the same in which surroundings

An embedded render reads the cell that the component shares and nothing
else of its surroundings (`Definition.embed_alike`). In surroundings
that agree about all cells a catalog therefore renders alike
(`Catalog.render_simulates`), and it does so in any surroundings at all
as long as only components are called that share nothing
(`Catalog.render_steady`). Both go through the one simulation of
`Proofs/Node/Simulation.lean`; in the second case the condition that is
handed back is that all calls logged are of such components.
-/
import RuledList.Proofs.Host.Waiting
import RuledList.Proofs.Node.Simulation

namespace RuledList

-- =============================================== terminating expansions

namespace Catalog

variable {catalog : Catalog}

/-- A tree expands, in some surroundings, to another tree, and leaves
other surroundings. -/
def Expands (catalog : Catalog) (n : Node) (a : Ambient) (tree : Node)
    (b : Ambient) : Prop :=
  ∃ depth, n.expandWith catalog.render depth a = some (tree, b)

/-- A tree expands to another one, and leaves the shared globals maps in
some state. -/
def Yields (catalog : Catalog) (n : Node) (a : Ambient) (tree : Node)
    (cells : Cells) : Prop :=
  ∃ b, catalog.Expands n a tree b ∧ b.cells = cells

/-- An expansion that ends ends in one way. -/
theorem Expands.unique {n tree tree' : Node} {a b b' : Ambient}
    (h : catalog.Expands n a tree b) (h' : catalog.Expands n a tree' b') :
    tree = tree' ∧ b = b' := by
  obtain ⟨depth, hout⟩ := h
  obtain ⟨depth', hout'⟩ := h'
  have hmore := Node.expandWith_mono (Nat.le_max_left depth depth') hout
  have hmore' := Node.expandWith_mono (Nat.le_max_right depth depth') hout'
  rw [hmore] at hmore'
  cases hmore'
  exact ⟨rfl, rfl⟩

theorem Expands.hostOnly {n tree : Node} {a b : Ambient}
    (h : catalog.Expands n a tree b) : tree.HostOnly := by
  obtain ⟨depth, hout⟩ := h
  exact (Node.expandWith_logged depth n hout).1

theorem expands_hostOnly {n : Node} (h : n.HostOnly) (a : Ambient) :
    catalog.Expands n a n a := ⟨0, Node.expandWith_hostOnly 0 h a⟩

/-- The expansion of an invocation: its slot content is expanded, the
component is rendered, and its output is expanded. -/
theorem expands_component_iff {ref : ComponentRef} {props : Props}
    {slot : List Node} {tree : Node} {a b : Ambient} :
    catalog.Expands (.component ref props slot) a tree b ↔
      ∃ rendered a₁ out a₂,
        catalog.Expands (.fragment slot) a (.fragment rendered) a₁
        ∧ catalog.render ref props rendered a₁ = some (out, a₂)
        ∧ catalog.Expands out a₂ tree b := by
  constructor
  · rintro ⟨depth, h⟩
    obtain ⟨rest, rendered, a₁, out, a₂, -, hslot, hcall, hrest⟩ :=
      Node.expandWith_component.1 h
    exact ⟨rendered, a₁, out, a₂, ⟨depth, hslot⟩, hcall, ⟨rest, hrest⟩⟩
  · rintro ⟨rendered, a₁, out, a₂, ⟨depth, hslot⟩, hcall, ⟨rest, hrest⟩⟩
    -- a depth that is enough for the slot and for the output
    refine ⟨max depth rest + 1, Node.expandWith_component.2
      ⟨max depth rest, rendered, a₁, out, a₂, rfl, ?_, hcall, ?_⟩⟩
    · exact Node.expandWith_mono
        (Nat.le_succ_of_le (Nat.le_max_left depth rest)) hslot
    · exact Node.expandWith_mono (Nat.le_max_right depth rest) hrest

end Catalog

-- ============================================================ embedding

namespace Instance

/-- In surroundings with the same shared globals a render pass leaves the
same shared globals. -/
theorem cells_renderPass {i : Instance} {a b : Ambient}
    (h : a.cells = b.cells) :
    (i.renderPass a).2.2.cells = (i.renderPass b).2.2.cells := by
  have hread : i.readGlobals a = i.readGlobals b := by
    unfold readGlobals
    rw [h]
  unfold renderPass writeGlobals
  rw [hread]
  cases i.globals with
  | own g => exact h
  | shared cell => exact congrArg (Cells.write · cell _) h

end Instance

namespace Definition

variable {component : Nat} {d : Definition} {p : Props}

/-- What mounts is rendered for one pass; of its events only the count is
told. -/
theorem embed_of_mount {a b : Ambient} {i : Instance}
    (h : Instance.mount component d p a = (.ok i, b)) :
    (d.embed component p a).1 = (i.renderPass b).1.node
      ∧ (d.embed component p a).2.cells
        = (i.renderPass b).2.2.cells := by
  unfold embed
  rw [h]
  refine ⟨rfl, ?_⟩
  simp only
  split <;> rfl

/-- What does not mount is rendered as nothing, with a warning. -/
theorem embed_of_error {e : BindingError} (h : passedItems p = .error e)
    (a : Ambient) :
    d.embed component p a
      = (.fragment [], a.tell (.embeddedNothing d.name e)) := by
  unfold embed
  rw [Instance.mount_of_error component d h]

/-- The instance that is rendered is the same at any time, and finds the
shared globals as they are. -/
theorem embed_of_items {data : List Props}
    (h : passedItems p = .ok data) (a : Ambient) :
    let i := Instance.mounted component d p data
    ∃ b, b.cells = a.cells
      ∧ (d.embed component p a).1 = (i.renderPass b).1.node
      ∧ (d.embed component p a).2.cells
        = (i.renderPass b).2.2.cells := by
  obtain ⟨hmount, hcells⟩ := Instance.mount_of_items component d h a
  exact ⟨_, hcells, embed_of_mount (Prod.ext hmount rfl)⟩

/-- In surroundings that agree about the cell that a component shares, it
is embedded as the same tree, but for handles. -/
theorem embed_alike {a b : Ambient}
    (h : ∀ cell, d.cell? = some cell →
      a.cells.map? cell = b.cells.map? cell) :
    (d.embed component p a).1.anonymous
      = (d.embed component p b).1.anonymous := by
  cases hp : passedItems p with
  | error e => rw [embed_of_error hp, embed_of_error hp]
  | ok data =>
      obtain ⟨_, hcells, hnode, -⟩ := embed_of_items hp a
      obtain ⟨_, hcells', hnode', -⟩ := embed_of_items hp b
      rw [hnode, hnode']
      refine congrArg RenderOutput.node
        (Instance.renderPass_alike fun cell hcell => ?_).1
      rw [Instance.cell?_mounted] at hcell
      rw [hcells, hcells']
      exact h cell hcell

/-- In surroundings with the same shared globals it leaves the same
shared globals. -/
theorem embed_cells {a b : Ambient} (h : a.cells = b.cells) :
    (d.embed component p a).2.cells
      = (d.embed component p b).2.cells := by
  cases hp : passedItems p with
  | error e =>
      rw [embed_of_error hp, embed_of_error hp]
      exact h
  | ok data =>
      obtain ⟨_, hcells, -, hleft⟩ := embed_of_items hp a
      obtain ⟨_, hcells', -, hleft'⟩ := embed_of_items hp b
      rw [hleft, hleft']
      exact Instance.cells_renderPass
        (hcells.trans (h.trans hcells'.symm))

end Definition

-- ============================================================= catalogs

namespace Component

/-- A component that renders the same whenever it is given the same: its
instances share nothing, or it is a function of what it is given. -/
def Steady : Component → Prop
  | .custom _ _ f => ∀ props slot cells cells',
    (f props slot cells).node = (f props slot cells').node
  | .produced d => d.isFunctional = false

end Component

namespace Catalog

variable {catalog : Catalog} {ref ref' : ComponentRef} {props : Props}
  {slot : List Node}

theorem render_produced {d : Definition}
    (h : catalog[ref.component]? = some (.produced d)) (a : Ambient) :
    catalog.render ref props slot a
      = some (d.embed ref.component props a) := by
  unfold render
  rw [h]

/-- A custom component renders what its function does, with handles. -/
theorem render_custom {name : String} {handle : Nat} {f : CustomFn}
    (h : catalog[ref.component]? = some (.custom name handle f))
    (a : Ambient) :
    ∃ out b, catalog.render ref props slot a = some (out, b)
      ∧ out.anonymous = (f props slot a.cells).node.anonymous
      ∧ b.cells = (f props slot a.cells).cells := by
  unfold render
  rw [h]
  exact ⟨_, _, rfl, Node.anonymous_issue _ _, rfl⟩

/-- A component renders alike in two surroundings if these have the same
shared globals, which it then leaves the same, or if it is steady. -/
theorem render_alike (href : ref.component = ref'.component)
    {a b a' : Ambient} {out : Node}
    (h : catalog.render ref props slot a = some (out, a'))
    (hsame : a.cells = b.cells
      ∨ ∃ c, catalog[ref.component]? = some c ∧ c.Steady) :
    ∃ out' b', catalog.render ref' props slot b = some (out', b')
      ∧ out.anonymous = out'.anonymous
      ∧ (a.cells = b.cells → a'.cells = b'.cells) := by
  cases hc : catalog[ref.component]? with
  | none =>
      unfold render at h
      rw [hc] at h
      cases h
  | some c =>
      have hc' : catalog[ref'.component]? = some c := by
        rw [← href]
        exact hc
      have hsame' : a.cells = b.cells ∨ c.Steady := by
        refine hsame.imp id fun ⟨k, hk, hsteady⟩ => ?_
        rw [hc] at hk
        cases hk
        exact hsteady
      cases c with
      | produced d =>
          rw [render_produced hc] at h
          injection h with h
          have hout : out = (d.embed ref.component props a).1 :=
            (congrArg Prod.fst h).symm
          have hleft : a' = (d.embed ref.component props a).2 :=
            (congrArg Prod.snd h).symm
          rw [hout, hleft, render_produced hc', ← href]
          refine ⟨_, _, rfl, Definition.embed_alike fun cell hcell => ?_,
            Definition.embed_cells⟩
          rcases hsame' with hcells | hown
          · rw [hcells]
          · -- a component that is not functional shares no cell
            have hshares := Definition.isFunctional_iff.2 ⟨cell, hcell⟩
            rw [show d.isFunctional = false from hown] at hshares
            cases hshares
      | custom name handle f =>
          obtain ⟨_, _, hout, hnode, hleft⟩ := render_custom hc a
          obtain ⟨out', b', hout', hnode', hleft'⟩ := render_custom hc' b
          rw [h] at hout
          cases hout
          refine ⟨out', b', hout', ?_, fun hcells => ?_⟩
          · rw [hnode, hnode']
            rcases hsame' with hcells | hpure
            · rw [hcells]
            · rw [hpure props slot a.cells b.cells]
          · rw [hleft, hleft', hcells]

/-- What a tree yields is a matter of the shared globals alone. -/
theorem Yields.congr {n tree : Node} {a b : Ambient} {cells : Cells}
    (h : catalog.Yields n a tree cells) (hab : a.cells = b.cells) :
    catalog.Yields n b tree cells := by
  obtain ⟨a', ⟨depth, hout⟩, hcells⟩ := h
  have hsimulates : Simulates (fun _ => True)
      (fun (a b : Ambient) => a.cells = b.cells) Eq
      (n.expandWith catalog.render depth)
      (n.expandWith catalog.render depth) := by
    refine Node.expandWith_simulates (fun href props slot => ?_)
      depth n n rfl
    intro a out a' hout _
    refine ⟨trivial, fun b hab => ?_⟩
    obtain ⟨out', b', hout', halike, hleft⟩ :=
      render_alike href hout (.inl hab)
    exact ⟨out', b', hout', halike, hleft hab⟩
  obtain ⟨-, hrelated⟩ := hsimulates a tree a' hout trivial
  obtain ⟨_, b', hout', rfl, hleft⟩ := hrelated b hab
  exact ⟨b', ⟨depth, hout'⟩, hleft.symm.trans hcells⟩

/-- An expansion that calls steady components only comes to the same tree
in any surroundings. -/
theorem expands_of_steady {n tree : Node} {a b : Ambient}
    {depth : Nat} {calls : List Call}
    (h : n.expandWith (Node.logged catalog.render) depth (a, [])
      = some (tree, b, calls))
    (hsteady : ∀ call ∈ calls,
      ∃ c, catalog[call.ref.component]? = some c ∧ c.Steady)
    (elsewhere : Ambient) : ∃ after, catalog.Expands n elsewhere tree
      after := by
  have hsimulates : Simulates
      (fun (s : Ambient × List Call) => ∀ call ∈ s.2,
        ∃ c, catalog[call.ref.component]? = some c ∧ c.Steady)
      (fun _ (_ : Ambient) => True) Eq
      (n.expandWith (Node.logged catalog.render) depth)
      (n.expandWith catalog.render depth) := by
    refine Node.expandWith_simulates (fun href props slot => ?_)
      depth n n rfl
    intro s out s' hout hfair
    obtain ⟨a, log⟩ := s
    obtain ⟨⟨out, a'⟩, hcall, heq⟩ := Option.map_eq_some_iff.1 hout
    cases heq
    refine ⟨fun call hin => hfair call (List.mem_append_left _ hin),
      fun t _ => ?_⟩
    obtain ⟨out', t', hout', halike, -⟩ := render_alike href hcall (.inr
      (hfair _ (List.mem_append_right _ List.mem_cons_self)))
    exact ⟨out', t', hout', halike, trivial⟩
  obtain ⟨-, hrelated⟩ := hsimulates (a, []) tree (b, calls) h hsteady
  obtain ⟨_, after, hout, rfl, -⟩ := hrelated elsewhere trivial
  exact ⟨after, depth, hout⟩

/-- Embedding a component with what mounts yields what mounting it by
hand does. -/
theorem yields_embedded_iff {d : Definition}
    (hd : catalog[ref.component]? = some (.produced d))
    {data : List Props} (hp : passedItems props = .ok data)
    {a : Ambient} {tree : Node} {cells : Cells} :
    catalog.Yields (.component ref props slot) a tree cells ↔
      ∃ rendered a₁ i a₂,
        catalog.Expands (.fragment slot) a (.fragment rendered) a₁
        ∧ Instance.mount ref.component d props a₁ = (.ok i, a₂)
        ∧ catalog.Yields (i.renderPass a₂).1.node (i.renderPass a₂).2.2
          tree cells := by
  constructor
  · rintro ⟨b, hexpands, hcells⟩
    obtain ⟨rendered, a₁, out, a₂, hslot, hrender, hout⟩ :=
      expands_component_iff.1 hexpands
    obtain ⟨hmount, -⟩ :=
      Instance.mount_of_items ref.component d hp a₁
    obtain ⟨hnode, hleft⟩ :=
      Definition.embed_of_mount (Prod.ext hmount rfl)
    rw [render_produced hd] at hrender
    injection hrender with hrender
    rw [hrender] at hnode hleft
    refine ⟨rendered, a₁, _, _, hslot, Prod.ext hmount rfl, ?_⟩
    rw [← hnode]
    exact Yields.congr ⟨b, hout, hcells⟩ hleft
  · rintro ⟨rendered, a₁, i, a₂, hslot, hmount, hyields⟩
    obtain ⟨hnode, hleft⟩ := Definition.embed_of_mount hmount
    rw [← hnode] at hyields
    obtain ⟨b, hout, hcells⟩ := hyields.congr hleft.symm
    exact ⟨b, expands_component_iff.2 ⟨rendered, a₁, _, _, hslot,
      render_produced hd a₁, hout⟩, hcells⟩

/-- Embedding a component with what does not mount comes to nothing but
expanding the slot content, and to a warning. -/
theorem expands_embedded_of_error {d : Definition}
    (hd : catalog[ref.component]? = some (.produced d))
    {e : BindingError} (hp : passedItems props = .error e)
    {a b : Ambient} {tree : Node} :
    catalog.Expands (.component ref props slot) a tree b ↔
      ∃ rendered a₁,
        catalog.Expands (.fragment slot) a (.fragment rendered) a₁
        ∧ tree = .fragment []
        ∧ b = a₁.tell (.embeddedNothing d.name e) := by
  have hnothing : ∀ around, catalog.Expands (.fragment []) around
      (.fragment []) around := expands_hostOnly rfl
  have hrender : ∀ rendered around, catalog.render ref props rendered
      around = some (.fragment [],
        around.tell (.embeddedNothing d.name e)) := by
    intro rendered around
    rw [render_produced hd, Definition.embed_of_error hp]
  rw [expands_component_iff]
  constructor
  · rintro ⟨rendered, a₁, out, a₂, hslot, hout, hrest⟩
    rw [hrender] at hout
    cases hout
    obtain ⟨rfl, rfl⟩ := hrest.unique (hnothing _)
    exact ⟨rendered, a₁, hslot, rfl, rfl⟩
  · rintro ⟨rendered, a₁, hslot, rfl, rfl⟩
    exact ⟨rendered, a₁, _, _, hslot, hrender rendered a₁, hnothing _⟩

end Catalog

-- =========================================================== main result

/-- A produced component that stands in a tree, with properties and with
slot content.

If the properties mount, expanding it yields what the following yields,
and the one ends exactly when the other does: expanding the slot content
and forgetting the result, mounting the component in the surroundings
that this left, one render pass, and expanding its tree. The resulting
tree invokes no component, and the shared globals afterwards are the
same. If the properties do not mount, the result is an empty fragment,
and one warning is all that is added to what expanding the slot content
left.

An expansion leaves every mounted instance as it is. So in a history of
commands and expansions whatever waits in the queue of an instance was
emitted in a render pass of that instance, at a command addressed to
it.

An expansion that calls no functional component, and custom ones only
that are functions of what they are given, comes to the same tree, and
to no other, in any surroundings: so whatever is done in between, to a
host or by other expansions. -/
theorem embedding_agrees_with_mounting {catalog : Catalog}
    {ref : ComponentRef} {d : Definition}
    (hd : catalog[ref.component]? = some (.produced d)) (p : Props)
    (slot : List Node) (a : Ambient) :
    let embedded := Node.create (.component ref) p slot
    let mount := Instance.mount ref.component d p
    (∀ j, (mount a).1 = .ok j → ∀ tree cells,
      catalog.Yields embedded a tree cells ↔
        ∃ rendered a₁ i a₂,
          catalog.Expands (.fragment slot) a (.fragment rendered) a₁
          ∧ mount a₁ = (.ok i, a₂)
          ∧ catalog.Yields (i.renderPass a₂).1.node
            (i.renderPass a₂).2.2 tree cells)
    ∧ (∀ e, (mount a).1 = .error e →
        (Notice.embeddedNothing d.name e).level = .warn
        ∧ ∀ tree b, catalog.Expands embedded a tree b ↔
          ∃ rendered a₁,
            catalog.Expands (.fragment slot) a (.fragment rendered) a₁
            ∧ tree = .fragment []
            ∧ b = a₁.tell (.embeddedNothing d.name e))
    ∧ (∀ tree b, catalog.Expands embedded a tree b → tree.HostOnly)
    ∧ (∀ (defined : List Definition) (s : Session) (n : Node)
          (depth x : Nat),
        (s.happen defined catalog (.expansion n depth)).instance? x
          = s.instance? x)
    ∧ (∀ (defined : List Definition) (around : Ambient)
          (history : List Happening) (x : Nat) (j : Instance),
        let live := (Session.start around).live defined catalog
        (live history).instance? x = some j →
        ∀ e ∈ j.emitter.queue, ∃ before c after,
          history = before ++ .command c :: after
            ∧ c.target? = some x
            ∧ e ∈ c.emitted ((live before).instance? x)
              (live before).world.ambient)
    ∧ ∀ (n tree : Node) (depth : Nat) (around after : Ambient)
        (calls : List Call),
        n.expandWith (Node.logged catalog.render) depth (around, [])
          = some (tree, after, calls) →
        (∀ call ∈ calls,
          ∃ c, catalog[call.ref.component]? = some c ∧ c.Steady) →
        ∀ elsewhere, (∃ b, catalog.Expands n elsewhere tree b)
          ∧ ∀ other b, catalog.Expands n elsewhere other b →
            other = tree := by
  intro embedded mount
  refine ⟨fun j hj tree cells => ?_, fun e he => ⟨rfl, fun tree b => ?_⟩,
    fun tree b h => h.hostOnly,
    fun _ s n depth x => s.instance?_expansion n depth x, ?_, ?_⟩
  · obtain ⟨data, hp, -⟩ := Instance.mount_inv (Prod.ext hj rfl)
    exact Catalog.yields_embedded_iff hd hp
  · exact Catalog.expands_embedded_of_error hd
      (Instance.mount_eq_error_iff_items.1 he)
  · intro defined around history x j live hj e he
    rcases Session.origin_of_waiting history (Session.sound_start around)
      hj e he with ⟨i, hi, -⟩ | horigin
    · -- nobody is mounted at the start
      cases hi
    · exact horigin
  · intro n tree depth around after calls h hsteady elsewhere
    obtain ⟨b, hb⟩ := Catalog.expands_of_steady h hsteady elsewhere
    exact ⟨⟨b, hb⟩, fun other b' hother => (hother.unique hb).1⟩

/-- The counted component with itself in the slot: the slot content is
rendered, and forgotten, and the component is rendered; it has then
counted to two. So it has when it is mounted by hand. -/
theorem counted_embeds_as_mounted :
    let ref : ComponentRef := ⟨0, "RuleList", none⟩
    let props := OrdMap.empty.insert "data"
      (.array [.object [("m", .bool true)]])
    let slot := [Node.component ref props []]
    ∃ tree cells,
      copyingCatalog.Yields (.component ref props slot) counted.2 tree
        cells
      ∧ tree.textContent = "m"
      ∧ ((cells.read 0).get? "renders").map Value.text = some "2"
      ∧ ∃ rendered a₁ i a₂,
        copyingCatalog.Expands (.fragment slot) counted.2
          (.fragment rendered) a₁
        ∧ Instance.mount 0 counted.1 props a₁ = (.ok i, a₂)
        ∧ copyingCatalog.Yields (i.renderPass a₂).1.node
          (i.renderPass a₂).2.2 tree cells := by
  intro ref props slot
  let out? := (Node.component ref props slot).expandWith
    copyingCatalog.render 2 counted.2
  have hends : out?.isSome = true := by decide +kernel
  obtain ⟨⟨tree, after⟩, h⟩ := Option.isSome_iff_exists.1 hends
  have htext : out?.map (fun r => r.1.textContent) = some "m" := by
    decide +kernel
  have hcount : out?.map
      (fun r => ((r.2.cells.read 0).get? "renders").map Value.text)
        = some (some "2") := by decide +kernel
  rw [h] at htext hcount
  injection htext with htext
  injection hcount with hcount
  have hyields : copyingCatalog.Yields (.component ref props slot)
      counted.2 tree after.cells := ⟨after, ⟨2, h⟩, rfl⟩
  have hd : copyingCatalog[ref.component]? = some (.produced counted.1) :=
    rfl
  obtain ⟨hagree, -⟩ :=
    embedding_agrees_with_mounting hd props slot counted.2
  exact ⟨tree, after.cells, hyields, htext, hcount,
    (hagree _ rfl tree after.cells).1 hyields⟩

end RuledList
