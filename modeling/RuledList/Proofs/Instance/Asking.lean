/-
Asking and telling. A render function cannot bind a property, it can only
ask for it: it emits the update event of the property, and when the events
are drained the property is bound. Whoever holds the instance binds the
property directly. This file compares the two ways, for every name.

Four things have to agree on the name. The emission puts the update mark
before it; the names that may be emitted were listed when the component
was produced (`Surface.mem_emits_ofRules`); the drain takes the mark off
again (`Event.boundProperty?_eq_some_iff`); and the surface looks up what
is left. A name that is empty or begins with the mark is a name like any
other.

Where the two ways differ is `data`. It cannot be bound directly, but its
items can be replaced, and asking for it does that if some rule lists the
update event. For any other name that is not on the surface, binding
fails, and asking changes nothing either.
-/
import RuledList.Proofs.Component.Surface
import RuledList.Proofs.Instance.Run
import RuledList.Proofs.Instance.Updates
import RuledList.Proofs.Rule.Emission

namespace RuledList

-- ================================================================ asking

namespace Instance

/-- The emission by which a render function of the instance asks for a
property to be bound. -/
def asking (i : Instance) (property : String) (v : Value) (a : Ambient) :
    Emission :=
  ⟨.start (i.readGlobals a) i.emitter, ⟨Event.updateName property, v⟩⟩

/-- A render function asks for a property to be bound: what it is
answered, and what it leaves. -/
def ask (i : Instance) (property : String) (v : Value) (a : Ambient) :
    Bool × Instance × Ambient :=
  ((i.asking property v a).answer,
    { i with emitter := (i.asking property v a).after.emitter },
    a.tellAll (i.asking property v a).after.notices)

variable {i : Instance} {property : String}

/-- Asking for what may be asked for puts the event behind those that
wait. -/
theorem ask_declared (h : Event.updateName property ∈ i.emitter.declared)
    (v : Value) (a : Ambient) :
    i.ask property v a
      = (true, i.awaiting [⟨Event.updateName property, v⟩], a) := by
  have hanswer : (i.asking property v a).answer = true :=
    List.contains_iff_mem.2 h
  have hafter : (i.asking property v a).after = _ :=
    Pass.offer_declared hanswer
  unfold ask
  rw [hanswer, hafter]
  show (true, _, a.tellAll []) = _
  rw [Ambient.tellAll_nil]
  rfl

/-- Asking for anything else is warned of, and leaves nothing. -/
theorem ask_undeclared
    (h : Event.updateName property ∉ i.emitter.declared)
    (v : Value) (a : Ambient) :
    i.ask property v a
      = (false, i,
          a.tell (.undeclaredEvent (Event.updateName property))) := by
  have hanswer : (i.asking property v a).answer = false := by
    rw [← Bool.not_eq_true]
    exact fun hyes => h (List.contains_iff_mem.1 hyes)
  have hafter : (i.asking property v a).after = _ :=
    Pass.offer_undeclared hanswer
  unfold ask
  rw [hanswer, hafter]
  rfl

-- ======================================================= one event waiting

/-- An instance for which nothing waits is idle. -/
theorem idle_eq_self (h : i.emitter.queue = []) : i.idle = i := by
  unfold idle
  rw [← h]

variable (hidle : i.emitter.queue = []) (v : Value) (a : Ambient)

include hidle

/-- Draining one event, when no others wait, is applying it. -/
theorem syncBindings_one (e : Event) :
    (i.awaiting [e]).syncBindings a
      = let out := Sync.apply i.definition.surface
          ⟨i.bound, i.data, [], []⟩ e
        (out.rest, { i with bound := out.bound, data := out.data },
          a.tellAll out.notices) := by
  have hone := i.syncBindings_awaiting [e] a
  rw [idle_eq_self hidle] at hone
  rw [hone]
  exact Prod.ext rfl (Prod.ext (idle_eq_self hidle) rfl)

/-- When nothing waits, nothing is drained. -/
theorem syncBindings_idle : i.syncBindings a = ([], i, a) := by
  have hnone := i.syncBindings_awaiting [] a
  rw [idle_eq_self hidle] at hnone
  have hself : i.awaiting [] = i := by
    unfold awaiting
    rw [List.append_nil]
  rw [hself] at hnone
  rw [hnone]
  exact Prod.ext rfl (Prod.ext (idle_eq_self hidle) a.tellAll_nil)

end Instance

-- ============================================================ which names

/-- The update event of a property may be emitted exactly when the
property can be bound or some rule lists the event. -/
theorem Surface.updateName_mem_emits (rules : List Rule)
    (property : String) :
    Event.updateName property ∈ (Surface.ofRules rules).emits
      ↔ (Surface.ofRules rules).isBindable property = true
        ∨ Listed rules (Event.updateName property) := by
  rw [Surface.mem_emits_ofRules, Surface.isBindable_iff,
    Surface.contains_ofRules]
  refine or_congr_left ?_
  constructor
  · intro h
    obtain ⟨rule, hrule, name, hdata, hname, hevent⟩ := h
    rw [Event.updateName_inj.1 hevent]
    exact ⟨hdata, .inr ⟨rule, hrule, hname⟩⟩
  · intro h
    obtain ⟨hdata, hdeclared⟩ := h
    obtain ⟨rule, hrule, hname⟩ := hdeclared.resolve_left hdata
    exact ⟨rule, hrule, property, hdata, hname, rfl⟩

namespace Instance

/-- An instance of a component made of rules: it has their surface, and
what may be emitted are the events of the surface. -/
structure MadeOf (rules : List Rule) (i : Instance) : Prop where
  surface : i.definition.surface = Surface.ofRules rules
  declared : i.emitter.declared = (Surface.ofRules rules).emits

/-- What is mounted is made of the rules that the component was produced
from, and stays so. -/
theorem madeOf_finish {component : Nat} {registry : Registry}
    {config : OutputConfig} {passed : Props} {a b c : Ambient}
    {i : Instance}
    (hmount : mount component
      (Definition.ofRegistry registry config a).1 passed b = (.ok i, c))
    (moves : List Move) :
    MadeOf registry.rules ((Moment.mk i c).finish moves).self := by
  obtain ⟨data, -, hi, -⟩ := mount_inv hmount
  obtain ⟨-, hdefinition, hdeclared⟩ := (Moment.mk i c).steps_keep moves
  have hsurface := Definition.surface_ofRegistry registry config a
  refine ⟨?_, ?_⟩
  · rw [hdefinition, hi]
    exact hsurface
  · rw [hdeclared, hi]
    exact congrArg Surface.emits hsurface

-- ============================================================= three cases

variable {rules : List Rule} {i : Instance} {property : String}

theorem MadeOf.mem_declared (h : MadeOf rules i) :
    Event.updateName property ∈ i.emitter.declared
      ↔ i.definition.surface.isBindable property = true
        ∨ Listed rules (Event.updateName property) := by
  rw [h.declared, h.surface]
  exact Surface.updateName_mem_emits rules property

/-- What comes of asking for a property and then draining what waits. -/
structure Asked where
  /-- What the asking was answered. -/
  answer : Bool
  /-- What the drain handed over. -/
  left : List Event
  self : Instance
  around : Ambient

/-- Ask for a property, and then drain what waits. -/
def askAndSync (i : Instance) (property : String) (v : Value)
    (a : Ambient) : Asked :=
  let (answer, i, a) := i.ask property v a
  let (left, i, a) := i.syncBindings a
  ⟨answer, left, i, a⟩

section Cases

variable (h : MadeOf rules i) (hidle : i.emitter.queue = []) (v : Value)
  (a : Ambient)

include hidle

/-- Asking for what may be asked for comes to applying the event. -/
theorem askAndSync_declared
    (hin : Event.updateName property ∈ i.emitter.declared) :
    i.askAndSync property v a
      = let out := Sync.apply i.definition.surface
          ⟨i.bound, i.data, [], []⟩ ⟨Event.updateName property, v⟩
        ⟨true, out.rest, { i with bound := out.bound, data := out.data },
          a.tellAll out.notices⟩ := by
  unfold askAndSync
  rw [ask_declared hin]
  simp only [syncBindings_one hidle]

include h

/-- A property that can be bound is bound, as it would have been
directly. -/
theorem askAndSync_bindable
    (hb : i.definition.surface.isBindable property = true) :
    i.askAndSync property v a = ⟨true, [], (i.setProp property v).2, a⟩ := by
  obtain ⟨hdata, hdeclared⟩ := Surface.isBindable_iff.1 hb
  rw [askAndSync_declared hidle v a (h.mem_declared.2 (.inl hb)),
    setProp_of_bindable v hb]
  unfold Sync.apply
  simp only [Event.boundProperty?_updateName, hdata, hdeclared,
    ↓reduceIte, Ambient.tellAll_nil]

/-- A list of items that is spelled replaces the one there is, as it would
have been replaced directly. -/
theorem askAndSync_items {data : List Props}
    (hlisted : Listed rules (Event.updateName dataName))
    (hv : itemsOfValue v = .ok data) :
    i.askAndSync dataName v a = ⟨true, [], (i.setDataValue v).2, a⟩ := by
  rw [askAndSync_declared hidle v a (h.mem_declared.2 (.inr hlisted))]
  unfold Sync.apply setDataValue setData
  simp only [Event.boundProperty?_updateName, hv, ↓reduceIte,
    Ambient.tellAll_nil]

/-- A value that spells no list of items is handed over with its
event. -/
theorem askAndSync_misspelt {err : BindingError}
    (hlisted : Listed rules (Event.updateName dataName))
    (hv : itemsOfValue v = .error err) :
    i.askAndSync dataName v a
      = ⟨true, [⟨Event.updateName dataName, v⟩], i,
          a.tell (.updateIgnored (Event.updateName dataName) err)⟩ := by
  rw [askAndSync_declared hidle v a (h.mem_declared.2 (.inr hlisted))]
  unfold Sync.apply Sync.pass
  simp only [Event.boundProperty?_updateName, hv, ↓reduceIte]
  rfl

/-- For a name that the surface does not have nothing is written, and the
event is handed over if some rule lists it. -/
theorem askAndSync_foreign
    (hlisted : Listed rules (Event.updateName property))
    (hf : i.definition.surface.isForeign property = true) :
    i.askAndSync property v a
      = ⟨true, [⟨Event.updateName property, v⟩], i, a⟩ := by
  obtain ⟨hdata, hundeclared⟩ := Surface.isForeign_iff.1 hf
  rw [askAndSync_declared hidle v a (h.mem_declared.2 (.inr hlisted))]
  unfold Sync.apply Sync.pass
  simp only [Event.boundProperty?_updateName, hdata, hundeclared,
    Bool.false_eq_true, ↓reduceIte, Ambient.tellAll_nil]
  rfl

/-- A name that cannot be bound and whose update event no rule lists. -/
theorem askAndSync_undeclared
    (hunlisted : ¬ Listed rules (Event.updateName property))
    (hb : i.definition.surface.isBindable property = false) :
    i.askAndSync property v a
      = ⟨false, [], i,
          a.tell (.undeclaredEvent (Event.updateName property))⟩ := by
  have hout : Event.updateName property ∉ i.emitter.declared := by
    intro hin
    rcases h.mem_declared.1 hin with hyes | hyes
    · rw [hb] at hyes
      cases hyes
    · exact hunlisted hyes
  unfold askAndSync
  rw [ask_undeclared hout]
  simp only [syncBindings_idle hidle]

end Cases

end Instance

-- ============================================================ main result

/-- An instance for which nothing waits, at any point of any run, and any
name. If the name is that of a property that can be bound, asking for it
is answered with true, and draining the events then hands nothing over
and leaves what binding the property would have left. If the name is
`data` and some rule lists its update event, draining leaves what
replacing the list of items would have left, and hands the event over
exactly when that fails. For every other name binding fails, and asking
and draining leave the instance as it was: the event is refused with a
warning if no rule lists it, and else handed over as it was emitted.
Globals that are shared are left alone in every case. -/
theorem asking_agrees_with_binding {component : Nat} {registry : Registry}
    {config : OutputConfig} {passed : Props} {a b c : Ambient}
    {i : Instance}
    (hmount : Instance.mount component
      (Definition.ofRegistry registry config a).1 passed b = (.ok i, c))
    (moves : List Move)
    (hidle : ((Moment.mk i c).finish moves).self.emitter.queue = [])
    (property : String) (v : Value) :
    let s := (Definition.ofRegistry registry config a).1.surface
    let m := (Moment.mk i c).finish moves
    let event : Event := ⟨Event.updateName property, v⟩
    let listed := Listed registry.rules event.name
    let out := m.self.askAndSync property v m.around
    (property ≠ dataName ∧ s.properties.contains property = true →
      out.answer = true ∧ out.left = []
        ∧ m.self.setProp property v = (.ok (), out.self))
    ∧ (property = dataName ∧ listed →
      out.answer = true ∧ out.self = (m.self.setDataValue v).2
        ∧ (out.left = [event]
          ↔ ∃ err, (m.self.setDataValue v).1 = .error err)
        ∧ (out.left = [] ↔ (m.self.setDataValue v).1 = .ok ()))
    ∧ (¬ (property ≠ dataName ∧ s.properties.contains property = true) →
      ¬ (property = dataName ∧ listed) →
      m.self.setProp property v
          = (.error (.notBindable property), m.self)
        ∧ out.self = m.self
        ∧ (¬ listed → out.answer = false ∧ out.left = []
          ∧ out.around = m.around.tell (.undeclaredEvent event.name))
        ∧ (listed → out.answer = true ∧ out.left = [event]))
    ∧ out.around.cells = m.around.cells := by
  intro s m event listed out
  have hmade : Instance.MadeOf registry.rules m.self :=
    Instance.madeOf_finish hmount moves
  have hsurface : m.self.definition.surface = s := by
    rw [hmade.surface]
    exact (Definition.surface_ofRegistry registry config a).symm
  refine ⟨fun hp => ?_, fun hp => ?_, fun hb hd => ?_, rfl⟩
  · have hb : m.self.definition.surface.isBindable property = true := by
      rw [hsurface]
      exact Surface.isBindable_iff.2 hp
    have hout : out = _ :=
      Instance.askAndSync_bindable hmade hidle v m.around hb
    rw [hout]
    exact ⟨rfl, rfl, by rw [Instance.setProp_of_bindable v hb]⟩
  · obtain ⟨hdata, hlisted⟩ := hp
    subst hdata
    cases hv : itemsOfValue v with
    | ok data =>
        have hout : out = _ :=
          Instance.askAndSync_items hmade hidle v m.around hlisted hv
        have hset : (m.self.setDataValue v).1 = .ok () := by
          unfold Instance.setDataValue
          rw [hv]
        rw [hout, hset]
        simp
    | error err =>
        have hout : out = _ :=
          Instance.askAndSync_misspelt hmade hidle v m.around hlisted hv
        have hset : m.self.setDataValue v = (.error err, m.self) := by
          unfold Instance.setDataValue
          rw [hv]
        rw [hout, hset]
        simp [event]
  · have hunbindable :
        m.self.definition.surface.isBindable property = false := by
      rw [hsurface, ← Bool.not_eq_true]
      exact fun h => hb (Surface.isBindable_iff.1 h)
    have hset : m.self.setProp property v
        = (.error (.notBindable property), m.self) := by
      unfold Instance.setProp
      rw [hunbindable]
      rfl
    by_cases hlisted : listed
    · have hf : m.self.definition.surface.isForeign property = true := by
        rw [hsurface]
        have hdata : property ≠ dataName := fun h => hd ⟨h, hlisted⟩
        refine Surface.isForeign_iff.2 ⟨hdata, ?_⟩
        rw [← Bool.not_eq_true]
        exact fun h => hb ⟨hdata, h⟩
      have hout : out = _ :=
        Instance.askAndSync_foreign hmade hidle v m.around hlisted hf
      rw [hout]
      exact ⟨hset, rfl, fun h => absurd hlisted h, fun _ => ⟨rfl, rfl⟩⟩
    · have hout : out = _ := Instance.askAndSync_undeclared hmade hidle v
        m.around hlisted hunbindable
      rw [hout]
      exact ⟨hset, rfl, fun _ => ⟨rfl, rfl, rfl⟩, fun h => absurd h hlisted⟩

/-- A rule with an input that has no name and one that has. It lists the
update event of the list of items, and one whose property is itself called
like an update event. -/
def oddlyNamedRule : Rule :=
  ((((Rule.ofRender "a" fun _ _ _ globals =>
    ⟨.text "a", globals, [], []⟩).withProp ""
      PropSpec.unrestricted.asInput).withProp "x"
      PropSpec.unrestricted.asInput).withEmit "update:data").withEmit
      "update:update:x"

/-- The component of that rule. -/
def oddlyNamed : Definition :=
  (Definition.ofRegistry ⟨[oddlyNamedRule]⟩ .standard .start).1

/-- An instance of it, to which a property has been bound. -/
def oddlyNamedMoment : Moment :=
  (Moment.mk (Instance.mounted 0 oddlyNamed OrdMap.empty []) .start).finish
    [.setProp "x" .null]

/-- The property without a name is bound, no list of items is made of a
number, the marked name is handed over, and an unknown one is refused. -/
theorem oddly_named_asking_agrees :
    let m := oddlyNamedMoment
    let out := fun name => m.self.askAndSync name (.int 1) m.around
    Instance.mount 0 oddlyNamed OrdMap.empty .start
        = (.ok (Instance.mounted 0 oddlyNamed OrdMap.empty []), .start)
      ∧ m.self.emitter.queue = []
      ∧ (out "").left = []
      ∧ m.self.setProp "" (.int 1) = (.ok (), (out "").self)
      ∧ (out "data").left = [⟨"update:data", .int 1⟩]
      ∧ (out "data").self = m.self
      ∧ (out "update:x").left = [⟨"update:update:x", .int 1⟩]
      ∧ (out "update:x").self = m.self
      ∧ (out "y").answer = false ∧ (out "y").self = m.self := by
  intro m out
  have hmount : Instance.mount 0 oddlyNamed OrdMap.empty .start
      = (.ok (Instance.mounted 0 oddlyNamed OrdMap.empty []), .start) := rfl
  have hidle : m.self.emitter.queue = [] := rfl
  have hagrees := fun name => asking_agrees_with_binding hmount
    [.setProp "x" .null] hidle name (.int 1)
  obtain ⟨-, hleft, hset⟩ := (hagrees "").1 (by decide)
  obtain ⟨-, hdata, hrefused, -⟩ := (hagrees "data").2.1 (by decide)
  obtain ⟨-, hmarked, -, hhanded⟩ :=
    (hagrees "update:x").2.2.1 (by decide) (by decide)
  obtain ⟨-, hother, hdropped, -⟩ :=
    (hagrees "y").2.2.1 (by decide) (by decide)
  exact ⟨hmount, hidle, hleft, hset, hrefused.2 ⟨_, rfl⟩, hdata,
    (hhanded (by decide)).2, hmarked, (hdropped (by decide)).1, hother⟩

end RuledList
