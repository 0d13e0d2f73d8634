/-
Sessions: a host, and someone who commands it. Whoever commands it keeps
the names that mounting gives out in variables, and addresses instances
through them; a variable that was never mounted into names nobody. A
variable that is mounted into once stands for one instance.

# What a command comes to

A command addressed to a variable comes to the same whatever the host
keeps beside the addressed instance. `Command.act` says what it comes
to, from the instance and the surroundings alone, and `Session.step_held`
that the host does just that and leaves all other variables alone.

The second half rests on `Session.Sound`: variables with a name have
different names, and every name was given out, so neither a new tenant
(`World.mount_spec`) nor a request to another one can be seen through
them. `Session.sound_finish` carries it along a session.
-/
import RuledList.Proofs.Host.Request

namespace RuledList

open Arena (Apart)

-- ================================================================ hosts

namespace World

/-- A list of items mounts under a name that was never given out, and
nobody else is touched. -/
theorem mount_spec {w : World} (hs : w.host.arena.Sound) (component : Nat)
    (d : Definition) {passed : Props} {data : List Props}
    (h : passedItems passed = .ok data) :
    ∃ id v, w.mount component d passed = (.ok id, v)
      ∧ ¬ w.host.arena.Given id
      ∧ v.get? id = some (.mounted component d passed data)
      ∧ v.ambient.cells = w.ambient.cells
      ∧ Apart w.host.arena v.host.arena id := by
  obtain ⟨hinst, hcells⟩ :=
    Instance.mount_of_items component d h w.ambient
  have hmount : Instance.mount component d passed w.ambient
      = (.ok (.mounted component d passed data),
          (Instance.mount component d passed w.ambient).2) :=
    Prod.ext hinst rfl
  obtain ⟨hnew, hget, hapart⟩ :=
    Arena.insert_spec hs (Instance.mounted component d passed data)
  let out := w.host.arena.insert (.mounted component d passed data)
  let around := (Instance.mount component d passed w.ambient).2
  refine ⟨out.1, World.record ⟨{ w.host with arena := out.2 },
    around.tell (.mounted out.1)⟩ (.mount out.1),
    ?_, hnew, hget, hcells, hapart⟩
  unfold mount
  rw [hmount]

theorem mount_refused (w : World) (component : Nat) (d : Definition)
    {passed : Props} {e : BindingError}
    (h : passedItems passed = .error e) :
    w.mount component d passed = (.error (.binding e), w) := by
  unfold mount
  rw [Instance.mount_of_error component d h]

/-- Whoever a name named, it names nobody once that one is
unmounted. -/
theorem unmount_spec {w : World} (hs : w.host.arena.Sound)
    (id : InstanceId) :
    (w.unmount id).2.get? id = none
      ∧ (w.unmount id).2.ambient.cells = w.ambient.cells
      ∧ Apart w.host.arena (w.unmount id).2.host.arena id := by
  cases h : w.get? id with
  | none =>
      have hw : (w.unmount id).2 = w :=
        congrArg Prod.snd (request_refused h .unmount)
      rw [hw]
      exact ⟨h, rfl, .refl hs id⟩
  | some i => exact (request_served hs h .unmount).2

/-- Unmounting several instances leaves none of them, and nobody where
there was nobody. -/
theorem unmountAll_spec (ids : List InstanceId) :
    ∀ {w : World}, w.host.arena.Sound →
      let v := ids.foldl (fun w id => (w.unmount id).2) w
      v.host.arena.Sound
        ∧ (∀ id, w.host.arena.Given id → v.host.arena.Given id)
        ∧ v.ambient.cells = w.ambient.cells
        ∧ ∀ id, id ∈ ids ∨ w.get? id = none → v.get? id = none := by
  induction ids with
  | nil =>
      intro w hs
      refine ⟨hs, fun _ hg => hg, rfl, fun id hid => ?_⟩
      rcases hid with hid | hid
      · exact absurd hid List.not_mem_nil
      · exact hid
  | cons first rest ih =>
      intro w hs
      obtain ⟨hgone, hcells, hapart⟩ := unmount_spec hs first
      obtain ⟨hs', hgiven, hcells', hnone⟩ := ih hapart.sound
      refine ⟨hs', fun id hg => hgiven id (hapart.given id hg),
        hcells'.trans hcells, fun id hid => hnone id ?_⟩
      -- unmounting the first leaves everyone else to the rest
      by_cases hf : id = first
      · rw [hf]
        exact .inr hgone
      · rcases hid with hid | hid
        · exact .inl ((List.mem_cons.1 hid).resolve_left hf)
        · exact .inr ((hapart.other id hf).trans hid)

/-- Clearing a host leaves nobody, and the shared globals as they
are. -/
theorem clear_spec {w : World} (hs : w.host.arena.Sound) :
    w.clear.host.arena.Sound
      ∧ (∀ id, w.host.arena.Given id → w.clear.host.arena.Given id)
      ∧ w.clear.ambient.cells = w.ambient.cells
      ∧ ∀ id, w.clear.get? id = none := by
  obtain ⟨hsound, hgiven, hcells, hnone⟩ :=
    unmountAll_spec w.host.arena.ids hs
  refine ⟨hsound, hgiven, hcells, fun id => hnone id ?_⟩
  cases h : w.get? id with
  | none => exact .inr rfl
  | some i => exact .inl (Arena.mem_ids_of_get? h)

end World

-- ============================================================= commands

/-- One command to a host; instances are addressed through variables. -/
inductive Command where
  /-- Mount a defined component and keep its name in a variable. -/
  | mount (x component : Nat) (passed : Props)
  /-- Make a request to the instance that a variable names. -/
  | ask (x : Nat) (r : Request)
  | clear
  | drainLog

namespace Command

/-- The variable that a command is addressed to, if it is addressed to
one. -/
def target? : Command → Option Nat
  | .mount x _ _ => some x
  | .ask x _ => some x
  | .clear => none
  | .drainLog => none

/-- What a command comes to for the variable that it is addressed to:
the answer, the instance that the variable names afterwards, and the
shared globals maps. -/
def act (defined : List Definition) (i? : Option Instance) (a : Ambient) :
    Command → Served
  | .mount _ component passed =>
    match defined[component]? with
    | none => ⟨.undefined, i?, a.cells⟩
    | some d =>
      match passedItems passed with
      | .error e => ⟨.mounted (.error (.binding e)), i?, a.cells⟩
      | .ok data =>
        ⟨.mounted (.ok .null), some (.mounted component d passed data),
          a.cells⟩
  | .ask _ r =>
    match i? with
    | none => ⟨r.refused .null, none, a.cells⟩
    | some i => r.serve i a
  | .clear => ⟨.cleared, none, a.cells⟩
  | .drainLog => ⟨.drained [], i?, a.cells⟩

end Command

-- ============================================================= sessions

/-- A host in its surroundings, and the names kept in variables. -/
structure Session where
  world : World
  names : Nat → InstanceId

namespace Session

/-- A session about to begin: nobody is mounted or named. -/
def start (around : Ambient) : Session := ⟨.start around, fun _ => .null⟩

/-- The instance that a variable names. -/
def instance? (s : Session) (x : Nat) : Option Instance :=
  s.world.get? (s.names x)

/-- The globals of the instance that a variable names. -/
def globals? (s : Session) (x : Nat) : Option Globals :=
  (s.instance? x).map fun i => i.readGlobals s.world.ambient

def cells (s : Session) : Cells := s.world.ambient.cells

/-- Keep a name in a variable. -/
def name (s : Session) (x : Nat) (id : InstanceId) : Session :=
  { s with names := fun y => if y = x then id else s.names y }

/-- Execute one command. -/
def step (defined : List Definition) (s : Session) :
    Command → Reply × Session
  | .mount x component passed =>
    match defined[component]? with
    | none => (.undefined, s)
    | some d =>
      match s.world.mount component d passed with
      | (.error e, world) => (.mounted (.error e), { s with world })
      | (.ok id, world) => (.mounted (.ok id), { s with world }.name x id)
  | .ask x r =>
    let (reply, world) := s.world.request (s.names x) r
    (reply, { s with world })
  | .clear => (.cleared, { s with world := s.world.clear })
  | .drainLog =>
    let (log, world) := s.world.drainLog
    (.drained log, { s with world })

/-- Execute several commands, in order. -/
def finish (defined : List Definition) (s : Session)
    (commands : List Command) : Session :=
  commands.foldl (fun s command => (s.step defined command).2) s

/-- The answers to the commands addressed to a variable, in order. -/
def replies (defined : List Definition) (x : Nat) :
    Session → List Command → List Reply
  | _, [] => []
  | s, command :: rest =>
    let (reply, t) := s.step defined command
    if command.target? = some x then
      reply :: t.replies defined x rest
    else t.replies defined x rest

-- ============================================================ soundness

/-- The arena is sound, the names in variables were given out, and no
two variables hold one name. -/
structure Sound (s : Session) : Prop where
  arena : s.world.host.arena.Sound
  given : ∀ x, s.names x = .null ∨ s.world.host.arena.Given (s.names x)
  distinct : ∀ x y, x ≠ y → s.names x = s.names y → s.names x = .null

theorem sound_start (around : Ambient) : (start around).Sound :=
  ⟨Arena.sound_empty, fun _ => .inl rfl, fun _ _ _ _ => rfl⟩

theorem instance?_of_null {s : Session} {x : Nat}
    (h : s.names x = .null) : s.instance? x = none := by
  unfold instance?
  rw [h]
  rfl

/-- Names that were given out stay so: a session whose host changes
otherwise stays sound. -/
theorem Sound.of_world {s : Session} (hs : s.Sound) {world : World}
    (harena : world.host.arena.Sound)
    (hgiven : ∀ id, s.world.host.arena.Given id →
      world.host.arena.Given id) : { s with world }.Sound :=
  ⟨harena, fun x => (hs.given x).imp id (hgiven _), hs.distinct⟩

/-- What is done under the name in one variable is not seen through
another. -/
theorem Sound.instance?_of_apart {s : Session} (hs : s.Sound) {x y : Nat}
    (hy : y ≠ x) {world : World}
    (h : Apart s.world.host.arena world.host.arena (s.names x)) :
    { s with world }.instance? y = s.instance? y := by
  by_cases hname : s.names y = s.names x
  · have hnull : s.names y = .null := hs.distinct y x hy hname
    rw [instance?_of_null hnull]
    exact instance?_of_null hnull
  · exact h.other _ hname

/-- No variable holds a name before it is given out. -/
theorem Sound.names_ne {s : Session} (hs : s.Sound)
    {id : InstanceId} (hnew : ¬ s.world.host.arena.Given id)
    {arena : Arena Instance} (hid : arena.Given id) (y : Nat) :
    s.names y ≠ id := by
  intro hy
  rcases hs.given y with hnull | hg
  · rw [← hy, hnull] at hid
    exact hid
  · rw [hy] at hg
    exact hnew hg

/-- Keeping a new name in a variable: the session stays sound, and the
other variables name whom they named. -/
theorem Sound.name {s : Session} (hs : s.Sound) {world : World}
    {id : InstanceId} (hnew : ¬ s.world.host.arena.Given id)
    (hid : world.host.arena.Given id)
    (h : Apart s.world.host.arena world.host.arena id) (x : Nat) :
    ({ s with world }.name x id).Sound
      ∧ ∀ y, y ≠ x →
        ({ s with world }.name x id).instance? y = s.instance? y := by
  have hfresh := hs.names_ne hnew hid
  refine ⟨⟨h.sound, fun y => ?_, fun y z hyz heq => ?_⟩, fun y hy => ?_⟩
  · show (if y = x then id else s.names y) = .null
      ∨ world.host.arena.Given (if y = x then id else s.names y)
    by_cases hy : y = x
    · rw [if_pos hy]
      exact .inr hid
    · rw [if_neg hy]
      exact (hs.given y).imp (fun h => h) (h.given _)
  · simp only [Session.name] at heq ⊢
    by_cases hy : y = x
    · rw [if_pos hy, if_neg fun hz => hyz (hy.trans hz.symm)] at heq
      exact absurd heq.symm (hfresh z)
    · rw [if_neg hy] at heq ⊢
      by_cases hz : z = x
      · rw [if_pos hz] at heq
        exact absurd heq (hfresh y)
      · rw [if_neg hz] at heq
        exact hs.distinct y z hyz heq
  · show world.get? (if y = x then id else s.names y) = _
    rw [if_neg hy]
    exact h.other _ (hfresh y)

-- ========================================================= one command

/-- Mounting a list of items makes a new instance under a name that no
variable held. -/
theorem step_mount {defined : List Definition} {s : Session}
    (hs : s.Sound) (x : Nat) {component : Nat} {d : Definition}
    (hd : defined[component]? = some d) {passed : Props}
    {data : List Props} (hp : passedItems passed = .ok data) :
    ∃ id t, s.step defined (.mount x component passed)
        = (.mounted (.ok id), t)
      ∧ (∀ y, s.names y ≠ id)
      ∧ t.instance? x = some (.mounted component d passed data)
      ∧ t.cells = s.cells
      ∧ (∀ y, y ≠ x → t.instance? y = s.instance? y)
      ∧ t.Sound := by
  obtain ⟨id, world, hmount, hnew, hget, hcells, hapart⟩ :=
    World.mount_spec hs.arena component d hp
  have hid := Arena.given_of_get? hget
  obtain ⟨hsound, hother⟩ := hs.name hnew hid hapart x
  refine ⟨id, Session.name { s with world } x id, ?_,
    hs.names_ne hnew hid, ?_, hcells, hother, hsound⟩
  · simp only [step, hd, hmount]
  · show world.get? (if x = x then id else s.names x) = _
    rw [if_pos rfl]
    exact hget

/-- A command addressed to a variable comes to what it comes to for the
addressed instance alone. The other variables name whom they named, and
the session stays sound. -/
theorem step_held (defined : List Definition) {s : Session}
    (hs : s.Sound) {command : Command} {x : Nat}
    (hx : command.target? = some x) :
    let out := command.act defined (s.instance? x) s.world.ambient
    let t := (s.step defined command).2
    (s.step defined command).1.anonymous = out.reply.anonymous
      ∧ t.instance? x = out.left?
      ∧ t.cells = out.cells
      ∧ (∀ y, y ≠ x → t.instance? y = s.instance? y)
      ∧ t.Sound := by
  cases command with
  | clear => cases hx
  | drainLog => cases hx
  | mount x' component passed =>
      cases hx
      cases hd : defined[component]? with
      | none =>
          have hstep : s.step defined (.mount x component passed)
              = (.undefined, s) := by simp only [step, hd]
          have hact : Command.act defined (s.instance? x) s.world.ambient
              (.mount x component passed)
              = ⟨.undefined, s.instance? x, s.cells⟩ := by
            simp only [Command.act, hd, cells]
          rw [hstep, hact]
          exact ⟨rfl, rfl, rfl, fun _ _ => rfl, hs⟩
      | some d =>
          cases hp : passedItems passed with
          | error e =>
              have hstep : s.step defined (.mount x component passed)
                  = (.mounted (.error (.binding e)), s) := by
                simp only [step, hd,
                  World.mount_refused s.world component d hp]
              have hact : Command.act defined (s.instance? x)
                  s.world.ambient (.mount x component passed)
                  = ⟨.mounted (.error (.binding e)), s.instance? x,
                      s.cells⟩ := by
                simp only [Command.act, hd, hp, cells]
              rw [hstep, hact]
              exact ⟨rfl, rfl, rfl, fun _ _ => rfl, hs⟩
          | ok data =>
              obtain ⟨id, t, hstep, -, hself, hcells, hother, hsound⟩ :=
                step_mount hs x hd hp
              have hact : Command.act defined (s.instance? x)
                  s.world.ambient (.mount x component passed)
                  = ⟨.mounted (.ok .null),
                      some (.mounted component d passed data),
                      s.cells⟩ := by
                simp only [Command.act, hd, hp, cells]
              rw [hstep, hact]
              exact ⟨rfl, hself, hcells, hother, hsound⟩
  | ask x' r =>
      cases hx
      cases hi : s.instance? x with
      | none =>
          have hstep : s.step defined (.ask x r)
              = (r.refused (s.names x), s) := by
            simp only [step, World.request_refused hi r]
          rw [hstep]
          exact ⟨Request.refused_anonymous .., hi, rfl, fun _ _ => rfl, hs⟩
      | some i =>
          obtain ⟨hreply, hleft, hcells, hapart⟩ :=
            World.request_served hs.arena hi r
          exact ⟨congrArg _ hreply, hleft, hcells,
            fun y hy => hs.instance?_of_apart hy hapart,
            hs.of_world hapart.sound hapart.given⟩

/-- A command addressed to no variable leaves the shared globals as they
are, and treats all variables alike: they name nobody any more, or
whom they named. -/
theorem step_free (defined : List Definition) {s : Session}
    (hs : s.Sound) {command : Command} (hx : command.target? = none) :
    let t := (s.step defined command).2
    (∀ x, t.instance? x
        = (command.act defined (s.instance? x) s.world.ambient).left?)
      ∧ t.cells = s.cells ∧ t.Sound := by
  cases command with
  | mount x component passed => cases hx
  | ask x r => cases hx
  | clear =>
      obtain ⟨hsound, hgiven, hcells, hnone⟩ :=
        World.clear_spec hs.arena
      exact ⟨fun x => hnone (s.names x), hcells,
        hs.of_world hsound hgiven⟩
  | drainLog =>
      exact ⟨fun _ => rfl, rfl, hs.of_world hs.arena fun _ hg => hg⟩

theorem Sound.step (defined : List Definition) {s : Session}
    (hs : s.Sound) (command : Command) :
    (s.step defined command).2.Sound := by
  cases hx : command.target? with
  | none => exact (step_free defined hs hx).2.2
  | some x => exact (step_held defined hs hx).2.2.2.2

theorem sound_finish (defined : List Definition)
    (commands : List Command) : ∀ {s : Session}, s.Sound →
      (s.finish defined commands).Sound := by
  induction commands with
  | nil => intro s hs; exact hs
  | cons command rest ih =>
      intro s hs
      exact ih (hs.step defined command)

end Session

end RuledList
