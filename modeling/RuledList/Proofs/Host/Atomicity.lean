/-
Failures change nothing. Whatever an operation of a host was about to do
when it failed, the world afterwards is the world before: instances,
globals, queues, the log, the names that will be given out, and the
record of notices (`failure_changes_nothing`).

There are three ways to fail. A name names nobody; then the request is
refused before anything else is looked at (`World.request_refused`). A
property cannot be bound. Or what is passed to a mount spells no list of
items (`Misspells`), and then the mount ends before the setup hook could
have run: with any other hook it would have ended the same way.

For a run it follows that commands that fail could as well have been
left out (`Session.finish_effective`).
-/
import RuledList.Proofs.Host.Session
import RuledList.Proofs.Instance.Items

namespace RuledList

-- ============================================================ instances

namespace Instance

/-- A mount fails exactly when what is passed as `data` spells no list of
items. -/
theorem mount_eq_error_iff {component : Nat} {d : Definition}
    {passed : Props} {a : Ambient} {e : BindingError} :
    (mount component d passed a).1 = .error e ↔
      ∃ v, (dataName, v) ∈ passed.entries ∧ Misspells v e :=
  mount_eq_error_iff_items.trans passedItems_eq_error_iff

/-- Which properties cannot be bound. -/
theorem setProp_eq_error_iff {i : Instance} {name : String} {v : Value}
    {e : BindingError} :
    (i.setProp name v).1 = .error e ↔
      e = .notBindable name
        ∧ (name = dataName
          ∨ i.definition.surface.properties.contains name = false) := by
  have hbindable : i.definition.surface.isBindable name = false
      ↔ name = dataName
        ∨ i.definition.surface.properties.contains name = false := by
    unfold Surface.isBindable
    rw [Bool.and_eq_false_iff, bne_eq_false_iff_eq]
  unfold setProp
  cases hb : i.definition.surface.isBindable name with
  | true =>
      rw [hb] at hbindable
      refine ⟨fun h => (nomatch h), fun ⟨_, hname⟩ => ?_⟩
      cases hbindable.2 hname
  | false =>
      refine ⟨fun h => ?_, fun ⟨he, _⟩ => ?_⟩
      · cases h
        exact ⟨rfl, hbindable.1 hb⟩
      · rw [he]
        rfl

theorem setDataValue_eq_error_iff {i : Instance} {v : Value}
    {e : BindingError} :
    (i.setDataValue v).1 = .error e ↔ Misspells v e := by
  rw [← itemsOfValue_eq_error_iff]
  unfold setDataValue
  cases itemsOfValue v with
  | error _ => exact ⟨fun h => by cases h; rfl, fun h => by cases h; rfl⟩
  | ok _ => exact ⟨fun h => (nomatch h), fun h => (nomatch h)⟩

end Instance

-- ================================================================ hosts

/-- Whether an answer reports a failure. -/
def Reply.isFailure : Reply → Bool
  | .undefined => true
  | .mounted r => !r.isOk
  | .unmounted r => r.isNone
  | .rendered r => !r.isOk
  | .passed r => !r.isOk
  | .written r => !r.isOk
  | .synced r => !r.isOk
  | .cleared => false
  | .drained _ => false

theorem Request.isFailure_refused (id : InstanceId) (r : Request) :
    (r.refused id).isFailure = true := by
  cases r <;> rfl

namespace World

theorem mount_eq_error_iff {w : World} {component : Nat} {d : Definition}
    {passed : Props} {e : HostError} :
    (w.mount component d passed).1 = .error e ↔
      ∃ v reason, (dataName, v) ∈ passed.entries ∧ Misspells v reason
        ∧ e = .binding reason := by
  have hbinding : (w.mount component d passed).1 = .error e
      ↔ ∃ reason, (Instance.mount component d passed w.ambient).1
          = .error reason ∧ e = .binding reason := by
    unfold mount
    cases Instance.mount component d passed w.ambient with
    | mk result around =>
        cases result with
        | ok i => exact ⟨fun h => (nomatch h), fun ⟨_, h, _⟩ => (nomatch h)⟩
        | error reason =>
            constructor
            · intro h
              cases h
              exact ⟨reason, rfl, rfl⟩
            · rintro ⟨_, h, rfl⟩
              cases h
              rfl
  rw [hbinding]
  constructor
  · rintro ⟨reason, h, rfl⟩
    obtain ⟨v, hin, hv⟩ := Instance.mount_eq_error_iff.1 h
    exact ⟨v, reason, hin, hv, rfl⟩
  · rintro ⟨v, reason, hin, hv, rfl⟩
    exact ⟨reason, Instance.mount_eq_error_iff.2 ⟨v, hin, hv⟩, rfl⟩

/-- A mount that fails leaves the world as it was, and would fail alike
with any other setup hook. -/
theorem mount_of_error {w : World} {component : Nat} {d : Definition}
    {passed : Props} {e : HostError}
    (h : (w.mount component d passed).1 = .error e)
    (setup? : Option SetupHook) :
    w.mount component { d with config := { d.config with setup? } } passed
      = (.error e, w) := by
  obtain ⟨v, reason, hin, hv, rfl⟩ := mount_eq_error_iff.1 h
  exact w.mount_refused component _
    (passedItems_eq_error_iff.2 ⟨v, hin, hv⟩)

/-- A request fails when its name names nobody, or when it is to bind a
property that cannot be bound; and then nothing happens. -/
theorem request_failed {w : World} {id : InstanceId} {r : Request}
    (h : (w.request id r).1.isFailure = true) :
    (w.request id r).2 = w
      ∧ (w.get? id = none
        ∨ ∃ i name v, w.get? id = some i ∧ r = .setProp name v
          ∧ (name = dataName
            ∨ i.definition.surface.properties.contains name = false)) := by
  cases hi : w.get? id with
  | none =>
      rw [request_refused hi r]
      exact ⟨rfl, .inl rfl⟩
  | some i =>
      cases r with
      | unmount =>
          -- a name that names an instance is that of a slot
          cases id with
          | null => cases hi
          | slot index version =>
              have hget : w.host.arena.get? (.slot index version)
                  = some i := hi
              simp only [request, unmount, Arena.remove, hget] at h
              cases h
      | render =>
          simp only [request, render, renderPass, hi] at h
          cases h
      | renderPass =>
          simp only [request, renderPass, hi] at h
          cases h
      | setData data =>
          simp only [request, setData, hi] at h
          cases h
      | syncBindings =>
          simp only [request, syncBindings, hi] at h
          cases h
      | setProp name v =>
          cases hset : i.setProp name v with
          | mk result j =>
              simp only [request, setProp, hi, hset] at h ⊢
              cases result with
              | ok _ => cases h
              | error e =>
                  have hname := (Instance.setProp_eq_error_iff.1
                    (congrArg Prod.fst hset)).2
                  exact ⟨rfl, .inr ⟨i, name, v, rfl, rfl, hname⟩⟩

theorem setProp_unbindable {w : World} {id : InstanceId} {i : Instance}
    (hi : w.get? id = some i) {name : String}
    (hname : name = dataName
      ∨ i.definition.surface.properties.contains name = false)
    (v : Value) :
    w.setProp id name v = (.error (.binding (.notBindable name)), w) := by
  have herror := Instance.setProp_eq_error_iff (v := v).2 ⟨rfl, hname⟩
  unfold setProp
  cases hset : i.setProp name v with
  | mk result j =>
      rw [hset] at herror
      cases herror
      simp only [hi, hset]

end World

-- ================================================================= runs

namespace Session

/-- A command that fails leaves the session as it was. -/
theorem step_failed {defined : List Definition} {s : Session}
    {command : Command}
    (h : (s.step defined command).1.isFailure = true) :
    (s.step defined command).2 = s := by
  cases command with
  | clear => cases h
  | drainLog => cases h
  | ask x r =>
      have hworld := (World.request_failed (r := r) h).1
      exact congrArg (Session.mk · s.names) hworld
  | mount x component passed =>
      cases hd : defined[component]? with
      | none => simp only [step, hd]
      | some d =>
          cases hm : s.world.mount component d passed with
          | mk result world =>
              simp only [step, hd, hm] at h ⊢
              cases result with
              | ok id => cases h
              | error e =>
                  have hkept := World.mount_of_error
                    (congrArg Prod.fst hm) d.config.setup?
                  have hworld := congrArg Prod.snd (hm.symm.trans hkept)
                  exact congrArg (Session.mk · s.names) hworld

/-- The commands of a run that do not fail. -/
def effective (defined : List Definition) :
    Session → List Command → List Command
  | _, [] => []
  | s, command :: rest =>
    let (reply, t) := s.step defined command
    if reply.isFailure then t.effective defined rest
    else command :: t.effective defined rest

/-- A run ends as it would without the commands that fail. -/
theorem finish_effective (defined : List Definition)
    (commands : List Command) : ∀ s : Session,
      s.finish defined (s.effective defined commands)
        = s.finish defined commands := by
  induction commands with
  | nil => intro s; rfl
  | cons command rest ih =>
      intro s
      have hfinish : s.finish defined (command :: rest)
          = (s.step defined command).2.finish defined rest := rfl
      rw [hfinish]
      unfold effective
      cases h : (s.step defined command).1.isFailure with
      | true =>
          have hs := step_failed h
          simp only [h, if_true, hs]
          exact ih s
      | false =>
          simp only [h]
          exact ih _

end Session

-- =========================================================== main result

/-- Every failing operation leaves the world as it was.

A mount fails exactly when `data` is passed, wherever it stands, with a
value that spells no list of items, and reports what is wrong with it;
it then ends the same way with any other setup hook. The same holds of a
mount outside of any host. Every request under a name that names nobody
is refused, an unmount by returning nothing. Of the requests to a mounted
instance only binding a property can fail, exactly for `data` and for
undeclared names. For an instance by itself, replacing its list of items
by a value fails exactly if the value spells no list, and binding a
property as before; both leave the instance as it was. And a run of
commands ends as it would without those that fail. -/
theorem failure_changes_nothing (w : World) :
    (∀ component d passed e,
      (w.mount component d passed).1 = .error e ↔
        ∃ v reason, (dataName, v) ∈ passed.entries ∧ Misspells v reason
          ∧ e = .binding reason)
    ∧ (∀ component d passed e,
        (w.mount component d passed).1 = .error e →
        w.mount component d passed = (.error e, w)
        ∧ ∀ setup?, w.mount component
            { d with config := { d.config with setup? } } passed
          = (.error e, w))
    ∧ (∀ component d passed a e,
        ((Instance.mount component d passed a).1 = .error e ↔
          ∃ v, (dataName, v) ∈ passed.entries ∧ Misspells v e)
        ∧ ((Instance.mount component d passed a).1 = .error e →
          Instance.mount component d passed a = (.error e, a)))
    ∧ (∀ id, w.get? id = none → ∀ r : Request,
        w.request id r = (r.refused id, w)
          ∧ (r.refused id).isFailure = true)
    ∧ (∀ id i name, w.get? id = some i →
        (name = dataName
          ∨ i.definition.surface.properties.contains name = false) →
        ∀ v, w.setProp id name v
          = (.error (.binding (.notBindable name)), w))
    ∧ (∀ id (r : Request), (w.request id r).1.isFailure = true →
        (w.request id r).2 = w
        ∧ (w.get? id = none
          ∨ ∃ i name v, w.get? id = some i ∧ r = .setProp name v
            ∧ (name = dataName ∨ i.definition.surface.properties.contains
                name = false)))
    ∧ (∀ (i : Instance) (v : Value) (e : BindingError),
        ((i.setDataValue v).1 = .error e ↔ Misspells v e)
        ∧ ((i.setDataValue v).1 = .error e → (i.setDataValue v).2 = i))
    ∧ (∀ (i : Instance) (name : String) (v : Value) (e : BindingError),
        ((i.setProp name v).1 = .error e ↔ e = .notBindable name
          ∧ (name = dataName ∨ i.definition.surface.properties.contains
              name = false))
        ∧ ((i.setProp name v).1 = .error e → (i.setProp name v).2 = i))
    ∧ ∀ (defined : List Definition) (names : Nat → InstanceId)
        (commands : List Command),
        let s : Session := ⟨w, names⟩
        s.finish defined (s.effective defined commands)
          = s.finish defined commands := by
  refine ⟨fun component d passed e => World.mount_eq_error_iff,
    fun component d passed e h => ⟨World.mount_of_error h d.config.setup?,
      World.mount_of_error h⟩,
    fun component d passed a e => ⟨Instance.mount_eq_error_iff,
      fun h => ?_⟩,
    fun id h r => ⟨World.request_refused h r,
      Request.isFailure_refused id r⟩,
    fun id i name hi hname => World.setProp_unbindable hi hname,
    fun id r => World.request_failed,
    fun i v e => ⟨Instance.setDataValue_eq_error_iff,
      Instance.setDataValue_error⟩,
    fun i name v e => ⟨Instance.setProp_eq_error_iff,
      Instance.setProp_error⟩,
    fun defined names commands =>
      Session.finish_effective defined commands _⟩
  exact Instance.mount_of_error component d
    (passedItems_eq_error_iff.2 (Instance.mount_eq_error_iff.1 h)) a

end RuledList
