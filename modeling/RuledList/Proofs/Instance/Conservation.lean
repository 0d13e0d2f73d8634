/-
Conservation of events. Between a render function that emits and whoever
listens nothing is lost, doubled, reordered or made up: at the end of
any run, the emissions that were answered with true are, in order, the
batches drained so far followed by what still waits
(`events_conserved`).

The law holds move by move (`Moment.queue_after`): a render pass puts
its accepted emissions behind the queue (`Pass.renderFrom_spec`), a
drain takes the whole queue away, and no other move touches it. What a
drain takes, it hands over (`takeEvents`) or splits into the writes that
the surface takes and the rest (`Instance.syncBindings_eq`).
-/
import RuledList.Proofs.Instance.Binding
import RuledList.Proofs.Instance.Run

namespace RuledList

open Emission (accepted)

namespace Moment

/-- The emissions that a move makes. -/
def emissions (m : Moment) : Move → List Emission
  | .renderPass =>
    Pass.emissionsFrom m.self.definition.registry m.self.bound m.self.attrs
      0 m.self.data (.start m.globals m.self.emitter)
  | _ => []

/-- The batch that a move drains from the queue, if it drains it. -/
def drained (m : Moment) : Move → Option (List Event)
  | .takeEvents => some m.self.emitter.queue
  | .syncBindings => some m.self.emitter.queue
  | _ => none

/-- The events whose emission was answered with true during a run. -/
def emitted (m : Moment) (moves : List Move) : List Event :=
  (m.steps moves).flatMap fun step => accepted (step.1.emissions step.2)

/-- The batches drained during a run. -/
def batches (m : Moment) (moves : List Move) : List (List Event) :=
  (m.steps moves).filterMap fun step => step.1.drained step.2

/-- What a move finds in the queue and adds to it, it drains or
leaves. -/
theorem queue_after (m : Moment) (move : Move) :
    m.self.emitter.queue ++ accepted (m.emissions move)
      = (m.drained move).getD [] ++ (m.after move).self.emitter.queue := by
  cases move with
  | renderPass =>
      have hqueue : (m.self.renderPass m.around).2.1.emitter.queue
          = m.self.emitter.queue ++ accepted (m.emissions .renderPass) := by
        rw [Instance.renderPass_emitter]
        exact (Pass.renderFrom_spec _ _ _ _ _ _).2.1
      exact hqueue.symm
  | setProp name v =>
      show _ ++ [] = [] ++ (m.self.setProp name v).2.emitter.queue
      rw [Instance.setProp_keeps, List.append_nil, List.nil_append]
  | setDataValue v =>
      show _ ++ [] = [] ++ (m.self.setDataValue v).2.emitter.queue
      rw [Instance.setDataValue_keeps, List.append_nil, List.nil_append]
  | takeEvents => rfl
  | syncBindings => rfl
  | unsetProp name => exact List.append_nil _
  | setData data => exact List.append_nil _
  | elsewhere around => exact List.append_nil _

/-- What was in the queue and what was emitted since is what was drained
and what is in the queue. -/
theorem queue_finish (moves : List Move) : ∀ m : Moment,
    m.self.emitter.queue ++ m.emitted moves
      = (m.batches moves).flatten
        ++ (m.finish moves).self.emitter.queue := by
  induction moves with
  | nil => intro m; exact List.append_nil _
  | cons move rest ih =>
      intro m
      have hemitted : m.emitted (move :: rest)
          = accepted (m.emissions move) ++ (m.after move).emitted rest := rfl
      have hbatches : (m.batches (move :: rest)).flatten
          = (m.drained move).getD []
            ++ ((m.after move).batches rest).flatten := by
        rw [batches, steps, List.filterMap_cons]
        cases m.drained move <;> rfl
      rw [hemitted, hbatches, ← List.append_assoc, queue_after,
        List.append_assoc, ih, ← List.append_assoc]
      rfl

/-- The emissions of a move find the declared names of the instance. -/
theorem declared_emissions (m : Moment) (move : Move) :
    ∀ x ∈ m.emissions move,
      x.before.emitter.declared = m.self.emitter.declared := by
  cases move with
  | renderPass => exact (Pass.renderFrom_spec _ _ _ _ _ _).2.2
  | _ => exact fun x hx => absurd hx List.not_mem_nil

end Moment

/-- Whether a name is declared is all that decides about an emission. -/
theorem Emission.outcome (x : Emission) {declared : List String}
    (h : x.before.emitter.declared = declared) :
    (x.event.name ∈ declared →
      x.answer = true ∧ x.after = { x.before with emitter :=
        { x.before.emitter with
          queue := x.before.emitter.queue ++ [x.event] } })
    ∧ (x.event.name ∉ declared →
      x.answer = false ∧ x.after = { x.before with
        notices := x.before.notices
          ++ [.undeclaredEvent x.event.name] }) := by
  have hanswer : x.answer = declared.contains x.event.name :=
    congrArg (fun names => names.contains x.event.name) h
  refine ⟨fun hin => ?_, fun hout => ?_⟩
  · have hyes : x.answer = true := by
      rw [hanswer, List.contains_iff_mem]
      exact hin
    exact ⟨hyes, Pass.offer_declared hyes⟩
  · have hno : x.answer = false := by
      rw [hanswer, ← Bool.not_eq_true, List.contains_iff_mem]
      exact hout
    exact ⟨hno, Pass.offer_undeclared hno⟩

-- ========================================================== main results

/-- For any run of an instance from its mount on: the emissions answered
with true are the drained batches and the waiting events, in order. A
batch that is taken is handed over; of a batch that is drained for
bindings every event is either written to the instance or handed over,
the latter in order. Only declared names are ever emitted with success;
an emission of any other name is answered with false, is told in one
warning, and leaves everything else as it was. -/
theorem events_conserved {component : Nat} {d : Definition}
    {passed : Props} {a b : Ambient} {i : Instance}
    (hmount : Instance.mount component d passed a = (.ok i, b))
    (moves : List Move) :
    let start : Moment := ⟨i, b⟩
    let declared := (Component.produced d).emits
    start.emitted moves
      = (start.batches moves).flatten
        ++ (start.finish moves).self.emitter.queue
    ∧ (∀ m, (m, .takeEvents) ∈ start.steps moves →
        m.returned .takeEvents = m.self.emitter.queue
        ∧ (m.after .takeEvents).self
          = { m.self with emitter := { m.self.emitter with queue := [] } })
    ∧ (∀ m, (m, .syncBindings) ∈ start.steps moves →
        m.returned .syncBindings
          = m.self.emitter.queue.filter
              (fun e => (d.surface.binding? e).isNone)
        ∧ (m.after .syncBindings).self
          = { (m.self.emitter.queue.filterMap
                d.surface.binding?).foldl Instance.write m.self with
              emitter := { m.self.emitter with queue := [] } })
    ∧ (∀ e ∈ start.emitted moves, e.name ∈ declared)
    ∧ ∀ step ∈ start.steps moves, ∀ x ∈ step.1.emissions step.2,
        (x.event.name ∈ declared →
          x.answer = true ∧ x.after = { x.before with emitter :=
            { x.before.emitter with
              queue := x.before.emitter.queue ++ [x.event] } })
        ∧ (x.event.name ∉ declared →
          x.answer = false ∧ x.after = { x.before with
            notices := x.before.notices
              ++ [.undeclaredEvent x.event.name] }
          ∧ (Notice.undeclaredEvent x.event.name).level = .warn) := by
  intro start declared
  obtain ⟨data, -, hi, -⟩ := Instance.mount_inv hmount
  have hqueue : i.emitter.queue = [] := by rw [hi]; rfl
  have hkept : ∀ step ∈ start.steps moves,
      step.1.self.definition = d
        ∧ step.1.self.emitter.declared = declared := by
    have hsteps := (start.steps_keep moves).1
    rw [show start.self = _ from hi] at hsteps
    exact hsteps
  have houtcome : ∀ step ∈ start.steps moves,
      ∀ x ∈ step.1.emissions step.2,
        x.before.emitter.declared = declared := fun step hstep x hx =>
    (step.1.declared_emissions step.2 x hx).trans (hkept step hstep).2
  refine ⟨?_, fun m _ => ⟨rfl, rfl⟩, fun m hm => ?_, fun e he => ?_,
    fun step hstep x hx => ?_⟩
  · have h := Moment.queue_finish moves start
    show start.emitted moves = _
    rw [← h]
    show _ = i.emitter.queue ++ _
    rw [hqueue, List.nil_append]
  · have hdef : m.self.definition = d := (hkept _ hm).1
    rw [← hdef]
    exact m.self.syncBindings_eq m.around
  · -- an accepted event was declared where it was emitted
    obtain ⟨step, hstep, hin⟩ := List.mem_flatMap.1 he
    obtain ⟨x, hx, rfl⟩ := List.mem_map.1 hin
    obtain ⟨hmem, hyes⟩ := List.mem_filter.1 hx
    have hdecl := houtcome step hstep x hmem
    rw [← hdecl]
    exact List.contains_iff_mem.1 hyes
  · obtain ⟨hyes, hno⟩ := x.outcome (houtcome step hstep x hx)
    exact ⟨hyes, fun hout => ⟨(hno hout).1, (hno hout).2, rfl⟩⟩

/-- The gauge rendered three times, its events taken after the first pass
and drained for bindings after the second. -/
def gaugeMoves : List Move :=
  [.renderPass, .takeEvents, .renderPass, .syncBindings, .renderPass]

/-- Two emissions of each pass succeed; four were drained, and two
wait. -/
theorem gauge_events_conserved :
    Instance.mount 0 gauge (gaugeProps 1) .start
        = (.ok (gaugeMoment 1).self, .start)
      ∧ (gaugeMoment 1).emitted gaugeMoves
        = ((gaugeMoment 1).batches gaugeMoves).flatten
          ++ ((gaugeMoment 1).finish gaugeMoves).self.emitter.queue
      ∧ ((gaugeMoment 1).emitted gaugeMoves).map Event.name
        = ["t", "update:size", "t", "update:size", "t", "update:size"]
      ∧ ((gaugeMoment 1).batches gaugeMoves).map List.length = [2, 2] := by
  have hmount : Instance.mount 0 gauge (gaugeProps 1) .start
      = (.ok (gaugeMoment 1).self, .start) := rfl
  exact ⟨hmount, (events_conserved hmount gaugeMoves).1, by decide,
    by decide⟩

end RuledList
