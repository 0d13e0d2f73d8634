/-
Runs of one instance. A *moment* is an instance in its surroundings, a
*move* is one thing that can be done to it, and a run is a list of moves
made one after the other from some moment.

Other instances may act between two moves, and if this one shares its
globals it will notice. The move `elsewhere` stands for all of that: it
leaves the surroundings in any state whatever, so a fact about all runs
holds whoever else is at work.

`Moment.steps` keeps, for every move of a run, the moment at which it
was made. What a whole run did is then told move by move and collected
over the steps.
-/
import RuledList.Instance.Bindings
import RuledList.Instance.Render
import RuledList.Proofs.Instance.Mount
import RuledList.Proofs.Rule.Emission
import RuledList.Template.Basic

namespace RuledList

/-- One thing that can be done to an instance. -/
inductive Move where
  | renderPass
  | takeEvents
  | syncBindings
  | setProp (name : String) (v : Value)
  | unsetProp (name : String)
  | setData (data : List Props)
  | setDataValue (v : Value)
  /-- Others act, and leave the surroundings in some state. -/
  | elsewhere (around : Ambient)

/-- An instance in its surroundings. -/
structure Moment where
  self : Instance
  around : Ambient

namespace Moment

/-- The globals that an instance reads. -/
def globals (m : Moment) : Globals := m.self.readGlobals m.around

/-- The moment after a move. -/
def after (m : Moment) : Move → Moment
  | .renderPass =>
    let (_, self, around) := m.self.renderPass m.around
    ⟨self, around⟩
  | .takeEvents => { m with self := m.self.takeEvents.2 }
  | .syncBindings =>
    let (_, self, around) := m.self.syncBindings m.around
    ⟨self, around⟩
  | .setProp name v => { m with self := (m.self.setProp name v).2 }
  | .unsetProp name => { m with self := (m.self.unsetProp name).2 }
  | .setData data => { m with self := m.self.setData data }
  | .setDataValue v => { m with self := (m.self.setDataValue v).2 }
  | .elsewhere around => { m with around }

/-- The events that a move hands over. -/
def returned (m : Moment) : Move → List Event
  | .takeEvents => m.self.takeEvents.1
  | .syncBindings => (m.self.syncBindings m.around).1
  | _ => []

/-- The moment after a run. -/
def finish (m : Moment) (moves : List Move) : Moment :=
  moves.foldl after m

/-- The moves of a run, each with the moment at which it is made. -/
def steps : Moment → List Move → List (Moment × Move)
  | _, [] => []
  | m, move :: rest => (m, move) :: (m.after move).steps rest

/-- A property that every move keeps holds at every step of a run, and
at its end. -/
theorem steps_induction {P : Moment → Prop} {m : Moment}
    (keep : ∀ m move, P m → P (m.after move)) (moves : List Move) :
    P m → (∀ step ∈ m.steps moves, P step.1) ∧ P (m.finish moves) := by
  induction moves generalizing m with
  | nil =>
      intro h
      exact ⟨fun _ hin => absurd hin List.not_mem_nil, h⟩
  | cons move rest ih =>
      intro h
      obtain ⟨hsteps, hlast⟩ := ih (keep m move h)
      refine ⟨fun step hin => ?_, hlast⟩
      rcases List.mem_cons.1 hin with rfl | hin
      · exact h
      · exact hsteps step hin

end Moment

-- ==================================================== what never changes

namespace Instance

/-- A render pass leaves the definition and everything that was passed
to the instance as they are. -/
theorem renderPass_keeps (i : Instance) (a : Ambient) :
    (i.renderPass a).2.1.definition = i.definition
      ∧ (i.renderPass a).2.1.bound = i.bound
      ∧ (i.renderPass a).2.1.attrs = i.attrs
      ∧ (i.renderPass a).2.1.data = i.data := by
  unfold renderPass writeGlobals
  cases i.globals with
  | own g => exact ⟨rfl, rfl, rfl, rfl⟩
  | shared cell => exact ⟨rfl, rfl, rfl, rfl⟩

/-- The queue after a render pass is the one that the pass over the
items leaves. -/
theorem renderPass_emitter (i : Instance) (a : Ambient) :
    (i.renderPass a).2.1.emitter
      = (Pass.renderItems i.definition.registry i.bound i.attrs i.data
          (.start (i.readGlobals a) i.emitter)).2.2.emitter := by
  unfold renderPass writeGlobals
  cases i.globals with
  | own g => rfl
  | shared cell => rfl

/-- The globals after a render pass are those that the pass over the
items leaves, if the cell that the instance shares them in is there. -/
theorem readGlobals_renderPass (i : Instance) (a : Ambient)
    (h : ∀ cell, i.globals = .shared cell →
      cell < a.cells.maps.length) :
    (i.renderPass a).2.1.readGlobals (i.renderPass a).2.2
      = (Pass.renderItems i.definition.registry i.bound i.attrs i.data
          (.start (i.readGlobals a) i.emitter)).2.2.globals := by
  unfold renderPass writeGlobals
  cases hglobals : i.globals with
  | own g => rfl
  | shared cell =>
      rw [readGlobals, hglobals]
      exact Cells.read_write_self _ _ _ (h cell hglobals)

/-- Replacing the list of items by a spelled one, whether it succeeds
or not, leaves all but the list as it is. -/
theorem setDataValue_keeps (i : Instance) (v : Value) :
    (i.setDataValue v).2 = { i with data := (i.setDataValue v).2.data } := by
  unfold setDataValue
  cases itemsOfValue v with
  | error e => rfl
  | ok data => rfl

theorem setProp_keeps (i : Instance) (name : String) (v : Value) :
    (i.setProp name v).2
      = { i with bound := (i.setProp name v).2.bound } := by
  unfold setProp
  by_cases h : i.definition.surface.isBindable name = true
  · rw [if_pos h]
  · rw [if_neg h]

end Instance

/-- No move changes the definition of an instance or the event names
that it declares. -/
theorem Moment.after_keeps (m : Moment) (move : Move) :
    (m.after move).self.definition = m.self.definition
      ∧ (m.after move).self.emitter.declared
        = m.self.emitter.declared := by
  cases move with
  | renderPass =>
      refine ⟨(m.self.renderPass_keeps m.around).1, ?_⟩
      show (m.self.renderPass m.around).2.1.emitter.declared = _
      rw [Instance.renderPass_emitter]
      exact (Pass.renderFrom_spec _ _ _ _ _ _).1
  | setProp name v =>
      show (m.self.setProp name v).2.definition = _
        ∧ (m.self.setProp name v).2.emitter.declared = _
      rw [Instance.setProp_keeps]
      exact ⟨rfl, rfl⟩
  | setDataValue v =>
      show (m.self.setDataValue v).2.definition = _
        ∧ (m.self.setDataValue v).2.emitter.declared = _
      rw [Instance.setDataValue_keeps]
      exact ⟨rfl, rfl⟩
  | takeEvents => exact ⟨rfl, rfl⟩
  | syncBindings => exact ⟨rfl, rfl⟩
  | unsetProp name => exact ⟨rfl, rfl⟩
  | setData data => exact ⟨rfl, rfl⟩
  | elsewhere around => exact ⟨rfl, rfl⟩

/-- No step of a run finds another definition or other declared event
names than the run began with, and neither does its end. -/
theorem Moment.steps_keep (m : Moment) (moves : List Move) :
    (∀ step ∈ m.steps moves,
        step.1.self.definition = m.self.definition
          ∧ step.1.self.emitter.declared = m.self.emitter.declared)
      ∧ (m.finish moves).self.definition = m.self.definition
      ∧ (m.finish moves).self.emitter.declared
        = m.self.emitter.declared := by
  refine steps_induction (P := fun n =>
    n.self.definition = m.self.definition
      ∧ n.self.emitter.declared = m.self.emitter.declared)
    (fun n move h => ?_) moves ⟨rfl, rfl⟩
  obtain ⟨hd, he⟩ := n.after_keeps move
  exact ⟨hd.trans h.1, he.trans h.2⟩

/-- The attributes of an instance stay as they were passed. -/
theorem Moment.after_attrs (m : Moment) (move : Move) :
    (m.after move).self.attrs = m.self.attrs := by
  cases move with
  | renderPass => exact (m.self.renderPass_keeps m.around).2.2.1
  | setProp name v =>
      show (m.self.setProp name v).2.attrs = _
      rw [Instance.setProp_keeps]
  | setDataValue v =>
      show (m.self.setDataValue v).2.attrs = _
      rw [Instance.setDataValue_keeps]
  | takeEvents => rfl
  | syncBindings => rfl
  | unsetProp name => rfl
  | setData data => rfl
  | elsewhere around => rfl

theorem Moment.finish_attrs (m : Moment) (moves : List Move) :
    (m.finish moves).self.attrs = m.self.attrs :=
  (steps_induction (P := fun n => n.self.attrs = m.self.attrs)
    (fun n move h => (n.after_attrs move).trans h) moves rfl).2

-- ================================================== a gauge for the queue

/-- A rule that emits an event, asks for its size to be increased,
emits an event that nobody declared, and writes down what its context
looks like. -/
def gaugeRule : Rule :=
  ((Rule.ofRender "a" (Template.ruleFn
    (.perform
      [⟨"emit", .emit, "t", .literal (.int 1)⟩,
        ⟨"bind", .bind, "size", .increment (.prop "size")⟩,
        ⟨"emit", .emit, "u", .literal .null⟩]
      (.plain .context)))).withProp "size"
        PropSpec.unrestricted.asInput).withEmit "t"

/-- The component of that rule, without a wrapping. -/
def gauge : Definition :=
  (Definition.ofRegistry ⟨[gaugeRule]⟩
    { OutputConfig.standard with container := .none } .start).1

/-- One item, and a size. -/
def gaugeProps (size : Int) : Props :=
  (OrdMap.empty.insert "data" (.array [.object [("a", .bool true)]])).insert
    "size" (.int size)

/-- The component mounted with a size. -/
def gaugeMoment (size : Int) : Moment :=
  ⟨Instance.mounted 0 gauge (gaugeProps size)
    [OrdMap.empty.insert "a" (.bool true)], .start⟩

end RuledList
