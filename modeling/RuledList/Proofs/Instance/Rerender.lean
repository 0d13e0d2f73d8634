/-
Rendering an unchanged instance again. If the trees that the rules make
depend on the properties, the ordinal and the attributes alone, the rules
make the same trees again, whatever the globals are and whatever waits
(`Pass.renderFrom_plain`). One might expect an equal result then. But a
reference to a produced component is made anew each time, and is numbered
only after the rules have made their trees: in the second pass it gets
another handle, and handles are what equality compares references by.

So two passes over the same trees give results that are the same to a
reader, and equal exactly when every reference in those trees had its
handle beforehand (`rerender_same_iff`). References to custom components
do, those to produced components do not. The wrapping is no exception and
no cause: it has one reference, which is made when the component is.
-/
import RuledList.Proofs.Instance.Run
import RuledList.Proofs.Instance.Shaping
import RuledList.Proofs.Node.Identity

namespace RuledList

-- ================================================================ rules

/-- A render function whose trees depend on the properties, the ordinal
and the attributes alone, whatever else it does. -/
def RenderFn.Plain (f : RenderFn) : Prop :=
  ∀ (props : Props) (index : Nat) (s t : Surroundings) (g h : Globals),
    s.attrs = t.attrs → (f props index s g).node = (f props index t h).node

/-- A component all of whose render functions are plain. -/
def Definition.Plain (d : Definition) : Prop :=
  ∀ rule ∈ d.registry.rules, rule.render.Plain

/-- By plain rules, any two passes make the same trees and report the same
positions. -/
theorem Pass.renderFrom_plain {registry : Registry}
    (hplain : ∀ rule ∈ registry.rules, rule.render.Plain)
    (bound attrs : Props) (data : List Props) (index : Nat) (p q : Pass) :
    (renderFrom registry bound attrs index data p).1
        = (renderFrom registry bound attrs index data q).1
      ∧ (renderFrom registry bound attrs index data p).2.1
        = (renderFrom registry bound attrs index data q).2.1 := by
  -- nothing has to hold between the passes, so nothing has to be kept
  refine renderFrom_related (R := fun _ _ => True) ?_ ?_ data index trivial
  · exact fun _ _ => trivial
  · intro p q rule hrule item index _
    exact ⟨hplain rule hrule _ _ _ _ _ _ rfl, trivial⟩

-- =============================================================== passes

namespace Instance

/-- The trees that the rules make in a render pass, before references are
numbered. -/
def trees (i : Instance) (a : Ambient) : List Node :=
  (Pass.renderItems i.definition.registry i.bound i.attrs i.data
    (.start (i.readGlobals a) i.emitter)).1

/-- A render pass numbers the trees that the rules make. -/
theorem nextHandle_renderPass (i : Instance) (a : Ambient) :
    (i.renderPass a).2.2.nextHandle
      = (Node.issueAll (i.trees a) a.nextHandle).2 := by
  unfold renderPass writeGlobals
  cases i.globals <;> rfl

/-- An instance of the same component with the same parts, whatever its
globals are and whatever waits. -/
structure Unchanged (i j : Instance) : Prop where
  definition : j.definition = i.definition
  bound : j.bound = i.bound
  attrs : j.attrs = i.attrs
  data : j.data = i.data

theorem unchanged_renderPass (i : Instance) (a : Ambient) :
    Unchanged i (i.renderPass a).2.1 := by
  obtain ⟨hdef, hbound, hattrs, hdata⟩ := i.renderPass_keeps a
  exact ⟨hdef, hbound, hattrs, hdata⟩

namespace Unchanged

variable {i j : Instance} (h : Unchanged i j)
  (hplain : i.definition.Plain) (a b : Ambient)

include h hplain

theorem trees : j.trees b = i.trees a := by
  unfold Instance.trees
  rw [h.definition, h.bound, h.attrs, h.data]
  exact (Pass.renderFrom_plain hplain _ _ _ _ _ _).1

theorem unmatched :
    (j.renderPass b).1.unmatched = (i.renderPass a).1.unmatched := by
  show (Pass.renderItems j.definition.registry _ _ _ _).2.1 = _
  rw [h.definition, h.bound, h.attrs, h.data]
  exact (Pass.renderFrom_plain hplain _ _ _ _ _ _).2

/-- The nodes of two passes number the same trees, and wrap them alike. -/
theorem nodes : ∃ forwarded,
    (i.renderPass a).1.node = i.definition.config.container.wrap
        (Node.issueAll (i.trees a) a.nextHandle).1 forwarded
      ∧ (j.renderPass b).1.node = i.definition.config.container.wrap
        (Node.issueAll (i.trees a) b.nextHandle).1 forwarded := by
  refine ⟨forwardedProps i.bound i.attrs, i.node_renderPass a, ?_⟩
  rw [← h.trees hplain a b, ← h.definition, ← h.bound, ← h.attrs]
  exact j.node_renderPass b

theorem anonymous : (j.renderPass b).1.node.anonymous
    = (i.renderPass a).1.node.anonymous := by
  obtain ⟨forwarded, hi, hj⟩ := h.nodes hplain a b
  rw [hi, hj]
  apply Node.anonymous_wrap
  rw [Node.anonymousAll_issueAll, Node.anonymousAll_issueAll]

/-- A later pass gives an equal result exactly when no reference had to be
numbered. -/
theorem same_iff (htidy : (i.renderPass a).1.node.Tidy)
    (hlater : (i.renderPass a).2.2.nextHandle ≤ b.nextHandle) :
    (i.renderPass a).1.same (j.renderPass b).1 = true
      ↔ Node.FixedAll (i.trees a) := by
  obtain ⟨forwarded, hi, hj⟩ := h.nodes hplain a b
  rw [i.nextHandle_renderPass] at hlater
  rw [hi] at htidy
  have htrees := (Node.tidyAll_issueAll _ _).1
    (Container.tidyAll_of_wrap htidy)
  unfold RenderOutput.same
  rw [h.unmatched hplain a b, beq_self_eq_true, Bool.and_true, hi, hj,
    Container.same_wrap_iff htidy]
  exact Node.sameAll_issueAll_iff _ htrees hlater

end Unchanged

end Instance

-- ========================================================== main result

/-- Two passes of an instance whose rules make trees from properties,
ordinals and attributes alone, one after the other and with nothing bound
in between. They report the same positions; their trees are the same but
for handles, and have the same markup. They are equal exactly when every
reference in the trees that the rules make has a handle beforehand. Among
references to the components of a catalog, that is when none is to a
produced component; the wrapping plays no part in it. -/
theorem rerender_same_iff {i : Instance} {a : Ambient}
    (hplain : i.definition.Plain)
    (htidy : (i.renderPass a).1.node.Tidy) :
    let first := i.renderPass a
    let second := first.2.1.renderPass first.2.2
    let made := Node.invocationsAll (i.trees a)
    second.1.unmatched = first.1.unmatched
    ∧ second.1.node.anonymous = first.1.node.anonymous
    ∧ second.1.node.markup = first.1.node.markup
    ∧ (first.1.same second.1 = true ↔ ∀ x ∈ made, x.ref.Fixed)
    ∧ ∀ catalog : Catalog,
        (∀ x ∈ made, catalog.ref? x.ref.component = some x.ref) →
        (first.1.same second.1 = true ↔ ∀ x ∈ made, ∀ d,
          catalog[x.ref.component]? ≠ some (.produced d)) := by
  intro first second made
  have hunchanged := i.unchanged_renderPass a
  have hequal : first.1.same second.1 = true ↔ ∀ x ∈ made, x.ref.Fixed :=
    hunchanged.same_iff hplain a first.2.2 htidy (Nat.le_refl _)
  have hanonymous : second.1.node.anonymous = first.1.node.anonymous :=
    hunchanged.anonymous hplain a first.2.2
  refine ⟨hunchanged.unmatched hplain a first.2.2, hanonymous, ?_, hequal,
    ?_⟩
  · rw [← Node.markup_anonymous, hanonymous, Node.markup_anonymous]
  · intro catalog hrefs
    rw [hequal]
    exact forall₂_congr fun x hx => Catalog.fixed_ref?_iff (hrefs x hx)

/-- A rule that renders an invocation of a component. -/
def invokingRule (ref : ComponentRef) : Rule :=
  Rule.ofRender "a" fun _ _ around globals =>
    ⟨.create (.component ref) around.attrs [], globals, [], []⟩

/-- A component of that rule, mounted with a size, which is an attribute
to it. -/
def invoker (ref : ComponentRef) : Instance :=
  Instance.mounted 2
    (Definition.ofRegistry ⟨[invokingRule ref]⟩ .standard .start).1
    (gaugeProps 1) [OrdMap.empty.insert "a" (.bool true)]

/-- A custom component that shows its slot, and the gauge. -/
def slotAndGauge : Catalog :=
  [.custom "Slot" 0 fun _ slot cells => ⟨.fragment slot, cells, []⟩,
    .produced gauge]

theorem invoker_plain (ref : ComponentRef) :
    (invoker ref).definition.Plain := by
  intro rule hrule props index s t g h hattrs
  obtain rfl := List.mem_singleton.1 hrule
  exact congrArg (Node.component ref · []) hattrs

theorem invoker_tidy (ref : ComponentRef) :
    ((invoker ref).renderPass .start).1.node.Tidy := by
  have hnone : Props.Tidy OrdMap.empty := fun e he => (nomatch he)
  have hsize : Props.Tidy (OrdMap.empty.insert "size" (.int 1)) := by
    intro e he
    obtain rfl := List.mem_singleton.1 he
    trivial
  exact ⟨hnone, ⟨hsize, trivial⟩, trivial⟩

/-- With the custom component, two passes are equal. -/
theorem invoked_slot_rerenders_equal :
    let ref : ComponentRef := ⟨0, "Slot", some 0⟩
    let first := (invoker ref).renderPass .start
    let second := first.2.1.renderPass first.2.2
    slotAndGauge.ref? 0 = some ref
      ∧ (invoker ref).definition.Plain
      ∧ first.1.node.Tidy
      ∧ first.1.same second.1 = true := by
  intro ref first second
  refine ⟨rfl, invoker_plain ref, invoker_tidy ref, ?_⟩
  obtain ⟨-, -, -, hsame, -⟩ :=
    rerender_same_iff (invoker_plain ref) (invoker_tidy ref)
  refine hsame.2 fun x hx => ?_
  obtain rfl := List.mem_singleton.1 hx
  rfl

/-- With the gauge, which is a produced component, they are not. -/
theorem invoked_gauge_rerenders_unequal :
    let ref : ComponentRef := ⟨1, "RuleList", none⟩
    let first := (invoker ref).renderPass .start
    let second := first.2.1.renderPass first.2.2
    slotAndGauge.ref? 1 = some ref
      ∧ (invoker ref).definition.Plain
      ∧ first.1.node.Tidy
      ∧ first.1.same second.1 = false := by
  intro ref first second
  exact ⟨rfl, invoker_plain ref, invoker_tidy ref, by decide⟩

end RuledList
