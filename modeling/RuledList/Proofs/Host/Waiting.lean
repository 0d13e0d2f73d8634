/-
Where waiting events come from. A session lives through commands to its
host and through expansions of trees around it. An expansion may render
any number of embedded components, and these emit events too; but it
works in the surroundings of the host, not on the host, so it finds
every instance as it was and leaves it so (`Session.instance?_expansion`).

What waits in the queue of a mounted instance was therefore emitted by
that very instance, in a render pass that a command asked it for
(`Session.origin_of_waiting`). The step is told request by request
(`Request.queue_serve`), the history by induction from its start on.
-/
import RuledList.Proofs.Host.Session
import RuledList.Proofs.Instance.Conservation

namespace RuledList

open Emission (accepted)

-- ============================================================= requests

namespace Request

/-- Whether a request is for a render pass. -/
def isPass : Request → Bool
  | .render | .renderPass => true
  | _ => false

/-- The events that serving a request makes an instance emit with
success. -/
def emitted (i : Instance) (a : Ambient) (r : Request) : List Event :=
  if r.isPass then accepted ((Moment.mk i a).emissions .renderPass) else []

/-- What waits after a request has waited before, or is emitted while the
request is served. -/
theorem queue_serve {i j : Instance} {a : Ambient} {r : Request}
    (h : (r.serve i a).left? = some j) {e : Event}
    (he : e ∈ j.emitter.queue) :
    e ∈ i.emitter.queue ∨ e ∈ r.emitted i a := by
  have hpass : e ∈ (i.renderPass a).2.1.emitter.queue →
      e ∈ i.emitter.queue
        ∨ e ∈ accepted ((Moment.mk i a).emissions .renderPass) := by
    intro hin
    have hqueue := (Moment.mk i a).queue_after .renderPass
    rw [← List.mem_append, hqueue]
    exact hin
  cases r with
  | unmount => cases h
  | render =>
      cases h
      exact hpass he
  | renderPass =>
      cases h
      exact hpass he
  | setData data =>
      cases h
      exact .inl he
  | setProp name v =>
      have hj : some (i.setProp name v).2 = some j := h
      cases hj
      rw [Instance.setProp_keeps] at he
      exact .inl he
  | syncBindings =>
      cases h
      cases he

end Request

namespace Command

/-- The events that a command makes the instance that it is addressed to
emit with success. -/
def emitted (i? : Option Instance) (a : Ambient) : Command → List Event
  | .ask _ r => (i?.map fun i => r.emitted i a).getD []
  | _ => []

/-- What waits after a command has waited before, or is emitted while the
command is executed. -/
theorem queue_act {defined : List Definition} {i? : Option Instance}
    {a : Ambient} {c : Command} {j : Instance}
    (h : (c.act defined i? a).left? = some j) {e : Event}
    (he : e ∈ j.emitter.queue) :
    (∃ i, i? = some i ∧ e ∈ i.emitter.queue) ∨ e ∈ c.emitted i? a := by
  cases c with
  | clear => cases h
  | drainLog => exact .inl ⟨j, h, he⟩
  | mount x component passed =>
      simp only [act] at h
      split at h
      · exact .inl ⟨j, h, he⟩
      · split at h
        · exact .inl ⟨j, h, he⟩
        · -- nothing waits for a new instance
          cases h
          cases he
  | ask x r =>
      cases i? with
      | none => cases h
      | some i =>
          have hleft : (r.serve i a).left? = some j := h
          rcases Request.queue_serve hleft he with hbefore | hnow
          · exact .inl ⟨i, rfl, hbefore⟩
          · exact .inr hnow

end Command

-- ============================================================ histories

/-- Something that happens to a session. -/
inductive Happening where
  | command (c : Command)
  /-- A tree is expanded, to some depth. -/
  | expansion (n : Node) (depth : Nat)

namespace Session

variable (defined : List Definition) (catalog : Catalog)

/-- The session after something has happened. An expansion that is given
up leaves no trace. -/
def happen (s : Session) : Happening → Session
  | .command c => (s.step defined c).2
  | .expansion n depth =>
    let out? := n.expandWith catalog.render depth s.world.ambient
    { s with world.ambient := (out?.map Prod.snd).getD s.world.ambient }

/-- The session after a history. -/
def live (s : Session) (history : List Happening) : Session :=
  history.foldl (happen defined catalog) s

variable {defined catalog}

/-- An expansion finds and leaves every instance as it is. -/
theorem instance?_expansion (s : Session) (n : Node) (depth x : Nat) :
    (s.happen defined catalog (.expansion n depth)).instance? x
      = s.instance? x := rfl

theorem Sound.happen {s : Session} (hs : s.Sound) (h : Happening) :
    (s.happen defined catalog h).Sound := by
  cases h with
  | command c => exact hs.step defined c
  | expansion n depth => exact hs.of_world hs.arena fun _ hg => hg

/-- What waits after something has happened has waited before, or is
emitted by the instance itself, at the command of whoever addresses
it. -/
theorem waiting_of_happen {s : Session} (hs : s.Sound) (h : Happening)
    {x : Nat} {j : Instance}
    (hj : (s.happen defined catalog h).instance? x = some j)
    {e : Event} (he : e ∈ j.emitter.queue) :
    (∃ i, s.instance? x = some i ∧ e ∈ i.emitter.queue)
      ∨ ∃ c, h = .command c ∧ c.target? = some x
        ∧ e ∈ c.emitted (s.instance? x) s.world.ambient := by
  cases h with
  | expansion n depth => exact .inl ⟨j, hj, he⟩
  | command c =>
      have hstep : (s.step defined c).2.instance? x = some j := hj
      cases hc : c.target? with
      | none =>
          rw [(step_free defined hs hc).1 x] at hstep
          rcases Command.queue_act hstep he with hbefore | hnow
          · exact .inl hbefore
          · -- a command to nobody makes nobody emit
            cases c with
            | mount => cases hc
            | ask => cases hc
            | clear => cases hnow
            | drainLog => cases hnow
      | some y =>
          obtain ⟨-, hleft, -, hother, -⟩ := step_held defined hs hc
          by_cases hy : x = y
          · subst hy
            rw [hleft] at hstep
            exact (Command.queue_act hstep he).imp id fun hnow =>
              ⟨c, rfl, hc, hnow⟩
          · rw [hother x hy] at hstep
            exact .inl ⟨j, hstep, he⟩

/-- Whatever waits in the queue of an instance has waited from the start,
or was emitted by that instance in the course of the history, at a
command addressed to it. -/
theorem origin_of_waiting (history : List Happening) :
    ∀ {s : Session}, s.Sound → ∀ {x : Nat} {j : Instance},
      (s.live defined catalog history).instance? x = some j →
      ∀ e ∈ j.emitter.queue,
        (∃ i, s.instance? x = some i ∧ e ∈ i.emitter.queue)
        ∨ ∃ before c after, history = before ++ .command c :: after
          ∧ c.target? = some x
          ∧ let t := s.live defined catalog before
            e ∈ c.emitted (t.instance? x) t.world.ambient := by
  induction history with
  | nil =>
      intro s _ x j hj e he
      exact .inl ⟨j, hj, he⟩
  | cons h rest ih =>
      intro s hs x j hj e he
      rcases ih (hs.happen h) hj e he with ⟨i, hi, hin⟩ | hlater
      · rcases waiting_of_happen hs h hi hin with hbefore | hnow
        · exact .inl hbefore
        · obtain ⟨c, rfl, hc, hnow⟩ := hnow
          exact .inr ⟨[], c, rest, rfl, hc, hnow⟩
      · obtain ⟨before, c, after, hrest, hc, hin⟩ := hlater
        refine .inr ⟨h :: before, c, after, ?_, hc, hin⟩
        rw [hrest, List.cons_append]

end Session

end RuledList
