/-
Quiet syncs: events of an instance are applied, and the log says nothing
of it. Whoever renders again only after an update is logged relies on
such a sync not to change what would be seen. It may change it in two
ways only (`quiet_sync_keeps_output`). What is bound and the items are
equal to what they were, but equality is blind to the order of an
object's fields and to the sign of a zero, and markup shows both. And
the queue is empty afterwards, which a render function can see if it
looks for the number of waiting events. Neither exception can be left
out (`quiet_sync_may_show`).

The positions of unmatched items are never in doubt, since a rule looks
at the names in an item only. Nor is the order in which properties are
bound: applying events adds names at the end and never removes one, so
as many names as before are the same names in their places.
-/
import RuledList.Host.Basic
import RuledList.Proofs.Host.Arena
import RuledList.Proofs.Instance.Binding
import RuledList.Proofs.Instance.Mount
import RuledList.Proofs.Instance.Output
import RuledList.Proofs.Rule.Matching
import RuledList.Template.Basic

namespace RuledList

-- ================================================================ rules

/-- A render function that does not look at the number of waiting
events. -/
def RenderFn.Blind (f : RenderFn) : Prop :=
  ∀ (props : Props) (index : Nat) (s : Surroundings) (n : Nat)
    (globals : Globals),
    f props index { s with pending := n } globals = f props index s globals

/-- A component none of whose render functions looks at the number of
waiting events. -/
def Definition.Blind (d : Definition) : Prop :=
  ∀ rule ∈ d.registry.rules, rule.render.Blind

namespace Pass

/-- Two passes that differ at most in the events that wait. -/
structure Akin (p q : Pass) : Prop where
  globals : p.globals = q.globals
  declared : p.emitter.declared = q.emitter.declared

/-- A blind render function gives the same, whatever waits. -/
theorem Akin.renderItem {p q : Pass} (h : Akin p q) {rule : Rule}
    (hblind : rule.render.Blind) (bound attrs item : Props)
    (index : Nat) :
    (p.renderItem rule bound attrs item index).1
        = (q.renderItem rule bound attrs item index).1
      ∧ Akin (p.renderItem rule bound attrs item index).2
        (q.renderItem rule bound attrs item index).2 := by
  have hout : (p.called rule bound attrs item index).1
      = (q.called rule bound attrs item index).1 := by
    unfold Pass.called surroundings
    rw [h.globals, h.declared]
    exact hblind _ _ ⟨attrs, q.emitter.declared, q.emitter.pending⟩ _ _
  refine ⟨congrArg Rendered.node hout, ?_, ?_⟩
  · rw [renderItem_eq_offerAll, renderItem_eq_offerAll,
      globals_offerAll, globals_offerAll]
    exact congrArg Rendered.globals hout
  · rw [renderItem_eq_offerAll, renderItem_eq_offerAll,
      (emissions_spec _ _).1, (emissions_spec _ _).1]
    exact h.declared

/-- Blind render functions build the same trees, whatever waits. -/
theorem Akin.renderFrom {registry : Registry}
    (hblind : ∀ rule ∈ registry.rules, rule.render.Blind)
    (bound attrs : Props) (data : List Props) (index : Nat)
    {p q : Pass} (h : Akin p q) :
    (renderFrom registry bound attrs index data p).1
        = (renderFrom registry bound attrs index data q).1
      ∧ (renderFrom registry bound attrs index data p).2.1
        = (renderFrom registry bound attrs index data q).2.1 := by
  refine renderFrom_related ?_ ?_ data index h
  · exact fun _ h => ⟨h.globals, h.declared⟩
  · exact fun hrule item index h =>
      h.renderItem (hblind _ hrule) bound attrs item index

end Pass

/-- Items that compare equal are matched alike. -/
theorem Registry.unmatchedFrom_same (r : Registry) {data : List Props} :
    ∀ {data' : List Props} (index : Nat),
      World.sameItems data' data = true →
      r.unmatchedFrom index data' = r.unmatchedFrom index data := by
  induction data with
  | nil =>
      intro data' index h
      cases data' with
      | nil => rfl
      | cons item rest => cases h
  | cons item rest ih =>
      intro data' index h
      cases data' with
      | nil => cases h
      | cons item' rest' =>
          obtain ⟨hitem, hrest⟩ := Bool.and_eq_true_iff.1 h
          have hselect := r.select?_congr (OrdMap.mem_keys_of_sameBy hitem)
          rw [unmatchedFrom, unmatchedFrom, hselect, ih _ hrest]

-- ============================================================ instances

namespace Instance

/-- A render pass reports the positions of the items that no rule
accepts. -/
theorem unmatched_renderPass (i : Instance) (a : Ambient) :
    (i.renderPass a).1.unmatched
      = i.definition.registry.unmatchedFrom 0 i.data :=
  Pass.unmatched_renderFrom _ _ _ _ _ _

/-- A write leaves the names that are bound in their places, with a new
one behind them. -/
theorem keys_write (i : Instance) (w : String × Value) :
    ∃ more, (i.write w).bound.keys = i.bound.keys ++ more := by
  have hsame : ∃ more, i.bound.keys = i.bound.keys ++ more :=
    ⟨[], (List.append_nil _).symm⟩
  unfold write setDataValue setProp
  by_cases hd : w.1 = dataName
  · rw [if_pos hd]
    cases itemsOfValue w.2 <;> exact hsame
  · rw [if_neg hd]
    by_cases hb : i.definition.surface.isBindable w.1 = true
    · rw [if_pos hb]
      show ∃ more, (i.bound.insert w.1 w.2).keys = _
      rw [OrdMap.keys_insert]
      by_cases hin : w.1 ∈ i.bound.keys
      · rw [if_pos hin]
        exact hsame
      · rw [if_neg hin]
        exact ⟨[w.1], rfl⟩
    · rw [if_neg hb]
      exact hsame

theorem keys_writeAll (ws : List (String × Value)) : ∀ i : Instance,
    ∃ more, (ws.foldl write i).bound.keys = i.bound.keys ++ more := by
  induction ws with
  | nil => exact fun i => ⟨[], (List.append_nil _).symm⟩
  | cons w ws ih =>
      intro i
      obtain ⟨new, hnew⟩ := i.keys_write w
      obtain ⟨more, hmore⟩ := ih (i.write w)
      refine ⟨new ++ more, ?_⟩
      rw [List.foldl_cons, hmore, hnew, List.append_assoc]

/-- A sync that leaves as many names bound as before leaves the same
ones, in their places. -/
theorem keys_syncBindings (i : Instance) (a : Ambient)
    (hsize : (i.syncBindings a).2.1.bound.size = i.bound.size) :
    (i.syncBindings a).2.1.bound.keys = i.bound.keys := by
  obtain ⟨-, hafter⟩ := i.syncBindings_eq a
  obtain ⟨more, hmore⟩ := keys_writeAll
    (i.emitter.queue.filterMap i.definition.surface.binding?) i
  have hkeys : (i.syncBindings a).2.1.bound.keys = i.bound.keys ++ more := by
    rw [hafter]
    exact hmore
  have hlen := congrArg List.length hkeys
  rw [List.length_append, OrdMap.keys, OrdMap.keys, entryNames,
    entryNames, List.length_map, List.length_map] at hlen
  -- names are only ever added, so equally many are the same
  have hnone : more = [] := by
    apply List.length_eq_zero_iff.1
    have hsize : (i.syncBindings a).2.1.bound.entries.length
        = i.bound.entries.length := hsize
    omega
  rw [hkeys, hnone, List.append_nil]

/-- The same properties, attributes, items and globals show the same
with another queue, if the render functions cannot tell how many events
wait. -/
theorem markup_renderPass {i : Instance} {a b : Ambient}
    {emitter : Emitter} (hdeclared : emitter.declared = i.emitter.declared)
    (hglobals : i.readGlobals b = i.readGlobals a)
    (hwaiting : i.definition.Blind ∨ emitter.pending = i.emitter.pending) :
    ({ i with emitter }.renderPass b).1.node.markup
      = (i.renderPass a).1.node.markup := by
  have hnodes : (Pass.renderItems i.definition.registry i.bound i.attrs
      i.data (.start (i.readGlobals b) emitter)).1
      = (Pass.renderItems i.definition.registry i.bound i.attrs i.data
        (.start (i.readGlobals a) i.emitter)).1 := by
    rcases hwaiting with hblind | hpending
    · have hakin : Pass.Akin (.start (i.readGlobals b) emitter)
          (.start (i.readGlobals a) i.emitter) := ⟨hglobals, hdeclared⟩
      exact (hakin.renderFrom hblind _ _ _ _).1
    · have halike : Pass.Alike (.start (i.readGlobals b) emitter)
          (.start (i.readGlobals a) i.emitter) :=
        ⟨hglobals, hdeclared, hpending⟩
      exact (halike.renderFrom _ _ _ _ _).1
  have hbefore := congrArg RenderOutput.node (i.anonymous_renderPass a)
  have hafter := congrArg RenderOutput.node
    ({ i with emitter }.anonymous_renderPass b)
  -- handles may differ from one pass to the next, but do not show
  have hsame : ({ i with emitter }.renderPass b).1.node.anonymous
      = (i.renderPass a).1.node.anonymous := by
    refine hafter.trans (Eq.trans ?_ hbefore.symm)
    show Node.anonymous (Container.wrap _ _ _) = _
    exact congrArg (fun ns => Node.anonymous
      (i.definition.config.container.wrap ns
        (forwardedProps i.bound i.attrs))) hnodes
  rw [← Node.markup_anonymous, hsame, Node.markup_anonymous]

/-- An instance after a quiet sync: what is bound and the items are equal
to what they were, the names that are bound are in their places, nothing
waits, and nothing else has changed. -/
structure Settled (before after : Instance) : Prop where
  rest : after = { before with
    bound := after.bound, data := after.data,
    emitter := { before.emitter with queue := [] } }
  keys : after.bound.keys = before.bound.keys
  bound : after.bound.same before.bound = true
  data : World.sameItems after.data before.data = true

end Instance

-- ================================================================ hosts

namespace World

/-- What a sync does that is not logged. -/
theorem settled_of_quiet {w w' : World} {id : InstanceId}
    {rest : List Event} (hsync : w.syncBindings id = (.ok rest, w'))
    (hquiet : w'.host.log = w.host.log) :
    ∃ before after, w.get? id = some before ∧ w'.get? id = some after
      ∧ before.Settled after ∧ w'.ambient.cells = w.ambient.cells := by
  unfold syncBindings at hsync
  cases hget : w.get? id with
  | none => rw [hget] at hsync; cases hsync
  | some before =>
      simp only [hget] at hsync
      split at hsync
      case isTrue hsame =>
        obtain ⟨-, rfl⟩ := Prod.mk.inj hsync
        obtain ⟨hbound, hdata⟩ := Bool.and_eq_true_iff.1 hsame
        have hsize := (Bool.and_eq_true_iff.1 hbound).1
        refine ⟨before, (before.syncBindings w.ambient).2.1, rfl,
          Arena.get?_replace_self hget _, ⟨rfl, ?_, hbound, hdata⟩, rfl⟩
        exact before.keys_syncBindings w.ambient (beq_iff_eq.1 hsize)
      case isFalse =>
        -- an update is logged
        obtain ⟨-, rfl⟩ := Prod.mk.inj hsync
        have hlen := congrArg List.length hquiet
        rw [record, List.length_append] at hlen
        exact absurd hlen (by simp [put])

theorem renderPass_of_get? {w : World} {id : InstanceId} {i : Instance}
    (h : w.get? id = some i) :
    (w.renderPass id).1 = .ok (i.renderPass w.ambient).1 := by
  rw [renderPass, h]

end World

/-- After a sync that is not logged a render pass reports the same
positions as before it, whatever the render functions do. The markup is
the same too where what is bound and the items are not only equal but
the same, and nothing waited or no render function looks at how many
events wait. -/
theorem quiet_sync_keeps_output {w w' : World} {id : InstanceId}
    {rest : List Event} (hsync : w.syncBindings id = (.ok rest, w'))
    (hquiet : w'.host.log = w.host.log) :
    ∃ before after out out',
      w.get? id = some before ∧ w'.get? id = some after
        ∧ (w.renderPass id).1 = .ok out ∧ (w'.renderPass id).1 = .ok out'
        ∧ before.Settled after
        ∧ after.readGlobals w'.ambient = before.readGlobals w.ambient
        ∧ out'.unmatched = out.unmatched
        ∧ (after.bound = before.bound → after.data = before.data →
          before.definition.Blind ∨ before.emitter.pending = 0 →
          out'.node.markup = out.node.markup) := by
  obtain ⟨before, after, hbefore, hafter, hsettled, hcells⟩ :=
    World.settled_of_quiet hsync hquiet
  have hglobals : after.readGlobals w'.ambient
      = before.readGlobals w.ambient := by
    rw [hsettled.rest, Instance.readGlobals, Instance.readGlobals, hcells]
  refine ⟨before, after, _, _, hbefore, hafter,
    World.renderPass_of_get? hbefore, World.renderPass_of_get? hafter,
    hsettled, hglobals, ?_, ?_⟩
  · rw [Instance.unmatched_renderPass, Instance.unmatched_renderPass,
      hsettled.rest]
    exact before.definition.registry.unmatchedFrom_same 0 hsettled.data
  · intro hbound hdata hwaiting
    have hemptied : after = { before with
        emitter := { before.emitter with queue := [] } } := by
      rw [hsettled.rest, hbound, hdata]
    rw [hemptied]
    rw [hemptied] at hglobals
    exact Instance.markup_renderPass rfl hglobals
      (hwaiting.imp_right Eq.symm)

-- =================================================== what a sync shows

/-- The component of one rule, without a wrapping. -/
def Rule.alone (rule : Rule) : Definition :=
  (Definition.ofRegistry ⟨[rule]⟩
    { OutputConfig.standard with container := .none } .start).1

/-- A rule that writes down a property. -/
def echoRule : Rule :=
  (Rule.ofRender "a" (Template.ruleFn (.plain (.prop "x")))).withProp "x"
    PropSpec.unrestricted.asInput

/-- A rule that writes down what its context looks like. -/
def contextRule : Rule :=
  (Rule.ofRender "a" (Template.ruleFn (.plain .context))).withEmit "t"

/-- A host with one instance, of one item and a property, for which an
event waits. -/
def waitingHost (rule : Rule) (x : Value) (e : Event) : World :=
  ⟨⟨⟨[⟨1, some
    { Instance.mounted 0 rule.alone
        ((OrdMap.empty.insert "data"
          (.array [.object [("a", .bool true)]])).insert "x" x)
        [OrdMap.empty.insert "a" (.bool true)] with
      emitter := ⟨rule.alone.surface.emits, [e]⟩ }⟩], []⟩, []⟩, .start⟩

theorem echoRule_blind : echoRule.alone.Blind := by
  intro rule hrule props index s n globals
  obtain rfl := List.mem_singleton.1 hrule
  rfl

/-- A property is asked to be what it is: nothing is logged, and nothing
else is shown. -/
theorem echo_kept_by_quiet_sync :
    let w := waitingHost echoRule (.int 1) ⟨"update:x", .int 1⟩
    let w' := (w.syncBindings (.slot 1 1)).2
    w.syncBindings (.slot 1 1) = (.ok [], w')
      ∧ w'.host.log = w.host.log
      ∧ ∃ before after out out',
        w.get? (.slot 1 1) = some before
          ∧ w'.get? (.slot 1 1) = some after
          ∧ (w.renderPass (.slot 1 1)).1 = .ok out
          ∧ (w'.renderPass (.slot 1 1)).1 = .ok out'
          ∧ out'.unmatched = out.unmatched
          ∧ after.bound = before.bound ∧ after.data = before.data
          ∧ before.definition.Blind ∧ before.emitter.pending = 1
          ∧ out'.node.markup = out.node.markup := by
  intro w w'
  have hsync : w.syncBindings (.slot 1 1) = (.ok [], w') := rfl
  have hquiet : w'.host.log = w.host.log := rfl
  obtain ⟨before, after, out, out', hbefore, hafter, hout, hout', -, -,
    hunmatched, hmarkup⟩ := quiet_sync_keeps_output hsync hquiet
  have hbound : after.bound = before.bound := by
    cases hbefore
    cases hafter
    rfl
  have hdata : after.data = before.data := by
    cases hbefore
    cases hafter
    rfl
  have hblind : before.definition.Blind := by
    cases hbefore
    exact echoRule_blind
  have hpending : before.emitter.pending = 1 := by
    cases hbefore
    rfl
  exact ⟨hsync, hquiet, before, after, out, out', hbefore, hafter, hout,
    hout', hunmatched, hbound, hdata, hblind, hpending,
    hmarkup hbound hdata (.inl hblind)⟩

/-- That syncs which are not logged keep the markup, provided that the
instances before and after are as given. -/
def QuietlyKept (given : Instance → Instance → Prop) : Prop :=
  ∀ (w w' : World) (id : InstanceId) (rest : List Event)
    (before after : Instance) (out out' : RenderOutput),
    w.syncBindings id = (.ok rest, w') → w'.host.log = w.host.log →
    w.get? id = some before → w'.get? id = some after →
    given before after →
    (w.renderPass id).1 = .ok out → (w'.renderPass id).1 = .ok out' →
    out'.node.markup = out.node.markup

/-- An object with one value for each of two fields, in either order and
with either zero. -/
def zeroFields (turned : Bool) : Value :=
  let zero : Value := .number (.float ⟨turned, ⟨0, by decide⟩⟩)
  .object (if turned then [("z", zero), ("a", .int 1)]
    else [("a", .int 1), ("z", zero)])

/-- A sync that is not logged may show: fields that change their order
and a zero that changes its sign are no change to the log, and a render
function can count the events that no longer wait. -/
theorem quiet_sync_may_show :
    ¬ QuietlyKept (fun _ _ => True)
      ∧ ¬ QuietlyKept (fun before _ => before.definition.Blind)
      ∧ ¬ QuietlyKept (fun before after =>
        after.bound = before.bound ∧ after.data = before.data) := by
  have hfields : ¬ QuietlyKept (fun before _ => before.definition.Blind) := by
    intro h
    have hsame := h (waitingHost echoRule (zeroFields false)
      ⟨"update:x", zeroFields true⟩) _ (.slot 1 1) _ _ _ _ _ rfl rfl rfl
      rfl echoRule_blind rfl rfl
    exact absurd hsame (by decide +kernel)
  refine ⟨fun h => hfields ?_, hfields, fun h => ?_⟩
  · exact fun w w' id rest before after out out' hsync hlog hb ha _ =>
      h w w' id rest before after out out' hsync hlog hb ha trivial
  · have hsame := h (waitingHost contextRule .null ⟨"t", .null⟩) _
      (.slot 1 1) _ _ _ _ _ rfl rfl rfl rfl ⟨rfl, rfl⟩ rfl rfl
    exact absurd hsame (by decide +kernel)

end RuledList
