/-
The log of a host tells what became of every instance. Whatever is done
to a host, and however often its log is drained meanwhile, the entries
about one name are a mount, updates, and at most one unmount after which
nothing follows; and reading them tells who is mounted now
(`history_replays_to_arena`).

# Three things kept apart

A host keeps the arena and the entries since the log was last drained;
whoever drains it keeps the rest. A `Chronicle` holds all three, and
`Chronicle.history` is everything that was ever logged. `Replays` is the
invariant that ties the history to the arena: for every name the history
tells a `Story` whose end agrees with the arena, a name with entries was
given out, and the mounts outnumber the unmounts by the tenants.

The second clause is what makes a mount safe: the arena gives out a name
that was never given out (`World.mount_spec`), so the history has no
entries about it yet and its story can begin. Everything else happens
under one name and leaves the stories of all others alone
(`Replays.extend`).
-/
import RuledList.Proofs.Host.Session
import RuledList.Proofs.Instance.Run

namespace RuledList

open Arena (Apart)

-- ============================================================== entries

namespace Lifecycle

def isMount : Lifecycle → Bool
  | .mount _ => true
  | _ => false

def isUnmount : Lifecycle → Bool
  | .unmount _ => true
  | _ => false

/-- The entries about one name. -/
def about (name : InstanceId) (history : List Lifecycle) :
    List Lifecycle :=
  history.filter fun e => e.id = name

/-- What a history may tell about a name, and whether the name then names
an instance. -/
inductive Story (name : InstanceId) : List Lifecycle → Bool → Prop
  /-- The name was never given out. -/
  | untold : Story name [] false
  /-- An instance was mounted and updated some number of times. -/
  | living (n : Nat) :
    Story name (.mount name :: List.replicate n (.update name)) true
  /-- It was unmounted in the end, and nothing came after that. -/
  | ended (n : Nat) :
    Story name
      (.mount name :: List.replicate n (.update name) ++ [.unmount name])
      false

namespace Story

variable {name : InstanceId} {es : List Lifecycle} {now : Bool}

theorem update (h : Story name es true) :
    Story name (es ++ [.update name]) true := by
  cases h with
  | living n =>
      rw [List.cons_append, ← List.replicate_succ']
      exact .living (n + 1)

theorem unmount (h : Story name es true) :
    Story name (es ++ [.unmount name]) false := by
  cases h with
  | living n => exact .ended n

/-- A story ends well if it has a mount and no unmount. -/
theorem now_iff (h : Story name es now) :
    now = true ↔ .mount name ∈ es ∧ .unmount name ∉ es := by
  cases h with
  | untold => simp
  | living n => simp [List.mem_replicate]
  | ended n => simp

end Story

section About

variable {name : InstanceId} {es : List Lifecycle}

/-- Entries about one name are all that a history gains about it. -/
theorem about_append_self (h : ∀ e ∈ es, e.id = name)
    (history : List Lifecycle) :
    about name (history ++ es) = about name history ++ es := by
  unfold about
  rw [List.filter_append]
  exact congrArg _ (List.filter_eq_self.2 fun e he =>
    decide_eq_true (h e he))

/-- Entries about one name say nothing about another. -/
theorem about_append_other (h : ∀ e ∈ es, e.id = name)
    (history : List Lifecycle) {other : InstanceId} (hne : other ≠ name) :
    about other (history ++ es) = about other history := by
  unfold about
  have hnone : es.filter (fun e => e.id = other) = [] :=
    List.filter_eq_nil_iff.2 fun e he hid =>
      hne ((of_decide_eq_true hid).symm.trans (h e he))
  rw [List.filter_append, hnone, List.append_nil]

theorem mem_about {e : Lifecycle} {history : List Lifecycle} :
    e ∈ about name history ↔ e ∈ history ∧ e.id = name := by
  simp only [about, List.mem_filter, decide_eq_true_eq]

end About

end Lifecycle

open Lifecycle (about Story)

-- ======================================================== one host's past

/-- One thing that can be done to a host. -/
inductive Operation where
  | mount (component : Nat) (d : Definition) (passed : Props)
  /-- Make a request under any name, given out or not. -/
  | ask (id : InstanceId) (r : Request)
  /-- Change an instance behind the log's back. -/
  | edit (id : InstanceId) (f : Instance → Instance)
  | clear
  | drainLog
  /-- Others act, and leave the surroundings in some state. -/
  | elsewhere (around : Ambient)

/-- A host in its surroundings, and all entries drained from its log so
far. -/
structure Chronicle where
  world : World
  drained : List Lifecycle

namespace Chronicle

/-- A host about to be used. -/
def start (around : Ambient) : Chronicle := ⟨.start around, []⟩

/-- Everything that was ever logged. -/
def history (c : Chronicle) : List Lifecycle :=
  c.drained ++ c.world.host.log

/-- Execute one operation. -/
def step (c : Chronicle) : Operation → Chronicle
  | .mount component d passed =>
    { c with world := (c.world.mount component d passed).2 }
  | .ask id r => { c with world := (c.world.request id r).2 }
  | .edit id f => { c with world := c.world.edit id f }
  | .clear => { c with world := c.world.clear }
  | .drainLog =>
    let (log, world) := c.world.drainLog
    ⟨world, c.drained ++ log⟩
  | .elsewhere around => { c with world.ambient := around }

/-- Execute several operations, in order. -/
def finish (c : Chronicle) (operations : List Operation) : Chronicle :=
  operations.foldl step c

end Chronicle

-- ============================================================ invariant

/-- A history tells of every name what the arena says of it now. -/
structure Replays (history : List Lifecycle) (a : Arena Instance) :
    Prop where
  sound : a.Sound
  given : ∀ id, about id history ≠ [] → a.Given id
  told : ∀ id, Story id (about id history) (a.contains id)
  count : a.size + history.countP Lifecycle.isUnmount
    = history.countP Lifecycle.isMount

namespace Replays

variable {history es : List Lifecycle} {a b : Arena Instance}
  {id : InstanceId}

theorem nothing : Replays [] (.empty : Arena Instance) where
  sound := Arena.sound_empty
  given _ h := absurd rfl h
  told id := by
    rw [Arena.contains_empty]
    exact .untold
  count := rfl

/-- What happens under one name continues the story of that name. -/
theorem extend (h : Replays history a) (hapart : Apart a b id)
    (habout : ∀ e ∈ es, e.id = id) (hgiven : b.Given id)
    (hstory : Story id (about id history ++ es) (b.contains id))
    (hcount : b.size + es.countP Lifecycle.isUnmount
      = a.size + es.countP Lifecycle.isMount) :
    Replays (history ++ es) b := by
  refine ⟨hapart.sound, fun other hother => ?_, fun other => ?_, ?_⟩
  · by_cases hne : other = id
    · rw [hne]
      exact hgiven
    · rw [Lifecycle.about_append_other habout history hne] at hother
      exact hapart.given other (h.given other hother)
  · by_cases hne : other = id
    · rw [hne, Lifecycle.about_append_self habout]
      exact hstory
    · rw [Lifecycle.about_append_other habout history hne]
      have hsame : b.contains other = a.contains other :=
        congrArg Option.isSome (hapart.other other hne)
      rw [hsame]
      exact h.told other
  · have hbefore := h.count
    rw [List.countP_append, List.countP_append]
    omega

/-- The arena changes under one name, which keeps its tenant, and nothing
is logged. -/
theorem touch (h : Replays history a) (hapart : Apart a b id)
    (ha : a.contains id = true) (hb : b.contains id = true)
    (hsize : b.size = a.size) : Replays history b := by
  obtain ⟨x, hx⟩ := Option.isSome_iff_exists.1 hb
  have hstory := h.told id
  rw [ha, ← hb] at hstory
  have hnext : Replays (history ++ []) b := h.extend hapart
    (fun e he => absurd he List.not_mem_nil) (Arena.given_of_get? hx)
    (by rwa [List.append_nil]) (by rw [hsize]; rfl)
  rwa [List.append_nil] at hnext

end Replays

-- ======================================================= what is logged

/-- The answer says that a name names nobody. -/
def Reply.isUnknown : Reply → Bool
  | .unmounted none => true
  | .rendered (.error (.unknownInstance _)) => true
  | .passed (.error (.unknownInstance _)) => true
  | .written (.error (.unknownInstance _)) => true
  | .synced (.error (.unknownInstance _)) => true
  | _ => false

theorem Request.isUnknown_refused (id : InstanceId) (r : Request) :
    (r.refused id).isUnknown = true := by
  cases r <;> rfl

/-- Whoever serves a request never says that there is nobody. -/
theorem Request.isUnknown_serve (i : Instance) (a : Ambient)
    (r : Request) : (r.serve i a).reply.isUnknown = false := by
  cases r with
  | setProp name v =>
      show (Reply.written ((i.setProp name v).1.mapError _)).isUnknown
        = false
      cases (i.setProp name v).1 <;> rfl
  | unmount => rfl
  | render => rfl
  | renderPass => rfl
  | setData data => rfl
  | syncBindings => rfl

namespace World

variable {w : World}

theorem contains_of_get? {id : InstanceId} {i : Instance}
    (h : w.get? id = some i) : w.host.arena.contains id = true :=
  congrArg Option.isSome h

/-- What a mount logs. -/
theorem mount_logged (hs : w.host.arena.Sound) {component : Nat}
    {d : Definition} {passed : Props} {id : InstanceId} {v : World}
    (h : w.mount component d passed = (.ok id, v)) :
    v.host.log = w.host.log ++ [.mount id]
      ∧ v.host.arena.size = w.host.arena.size + 1 := by
  unfold mount at h
  split at h
  · cases h
  · cases h
    exact ⟨rfl, Arena.size_insert hs _⟩

/-- A mount that answers with a name gives it out for the first time. -/
theorem mount_fresh (hs : w.host.arena.Sound) {component : Nat}
    {d : Definition} {passed : Props} {id : InstanceId} {v : World}
    (h : w.mount component d passed = (.ok id, v)) :
    ¬ w.host.arena.Given id := by
  cases hp : passedItems passed with
  | error e =>
      rw [mount_refused w component d hp] at h
      cases h
  | ok data =>
      obtain ⟨id', v', hmount, hnew, -⟩ := mount_spec hs component d hp
      rw [hmount] at h
      cases h
      exact hnew

/-- Whether a request is answered is a matter of the arena. -/
theorem isUnknown_request (hs : w.host.arena.Sound) (id : InstanceId)
    (r : Request) :
    (w.request id r).1.isUnknown = !w.host.arena.contains id := by
  cases h : w.get? id with
  | none =>
      have hnobody : w.host.arena.contains id = false :=
        congrArg Option.isSome h
      rw [request_refused h, hnobody]
      exact r.isUnknown_refused id
  | some i =>
      rw [(request_served hs h r).1, contains_of_get? h]
      exact r.isUnknown_serve i w.ambient

/-- What a request logs: that the instance is gone, or, if it stays, an
update or nothing. -/
theorem request_logged {id : InstanceId} {i : Instance}
    (h : w.get? id = some i) (r : Request) :
    let v := (w.request id r).2
    ((r.serve i w.ambient).left? = none
        ∧ v.host.log = w.host.log ++ [.unmount id]
        ∧ v.host.arena.size + 1 = w.host.arena.size)
      ∨ ((r.serve i w.ambient).left?.isSome
        ∧ (v.host.log = w.host.log
          ∨ v.host.log = w.host.log ++ [.update id])
        ∧ v.host.arena.size = w.host.arena.size) := by
  have hsize : ∀ j, (w.put id j).host.arena.size = w.host.arena.size :=
    fun j => Arena.size_replace w.host.arena id j
  cases r with
  | unmount =>
      cases hremove : w.host.arena.remove id with
      | none =>
          obtain ⟨index, s, rfl, -, -⟩ := Arena.slot_of_get? h
          have hget : w.host.arena.get? (.slot index s.version)
              = some i := h
          unfold Arena.remove at hremove
          rw [hget] at hremove
          cases hremove
      | some out =>
          simp only [request, unmount, hremove]
          exact .inl ⟨rfl, rfl, Arena.size_remove hremove⟩
  | render =>
      simp only [request, render, renderPass, h]
      exact .inr ⟨rfl, .inl rfl, hsize _⟩
  | renderPass =>
      simp only [request, renderPass, h]
      exact .inr ⟨rfl, .inl rfl, hsize _⟩
  | setData data =>
      simp only [request, setData, h]
      exact .inr ⟨rfl, .inr rfl, hsize _⟩
  | setProp name v =>
      simp only [request, setProp, h]
      split
      · exact .inr ⟨rfl, .inl rfl, rfl⟩
      · exact .inr ⟨rfl, .inr rfl, hsize _⟩
  | syncBindings =>
      simp only [request, syncBindings, h]
      split
      · exact .inr ⟨rfl, .inl rfl, hsize _⟩
      · exact .inr ⟨rfl, .inr rfl, hsize _⟩

/-- Unmounting tenants, each of them once, logs just that. -/
theorem unmountAll_logged (ids : List InstanceId) : ∀ {w : World},
    w.host.arena.Sound → ids.Nodup →
    (∀ id ∈ ids, w.host.arena.contains id = true) →
      let v := ids.foldl (fun w id => (w.unmount id).2) w
      v.host.log = w.host.log ++ ids.map .unmount
        ∧ v.host.arena.size + ids.length = w.host.arena.size := by
  induction ids with
  | nil =>
      intro w _ _ _
      exact ⟨(List.append_nil _).symm, rfl⟩
  | cons first rest ih =>
      intro w hs hnodup hall
      obtain ⟨hnot, hrest⟩ := List.nodup_cons.1 hnodup
      obtain ⟨i, hi⟩ :=
        Option.isSome_iff_exists.1 (hall first List.mem_cons_self)
      obtain ⟨-, -, hapart⟩ := unmount_spec hs first
      obtain ⟨-, hlog, hsize⟩ | ⟨hstays, -⟩ :=
        request_logged hi .unmount
      case inr => cases hstays
      -- the others are still there when the first is gone
      obtain ⟨hlogs, hsizes⟩ := ih hapart.sound hrest fun id hid => by
        have hne : id ≠ first := fun heq => hnot (heq ▸ hid)
        exact (congrArg Option.isSome (hapart.other id hne)).trans
          (hall id (List.mem_cons_of_mem first hid))
      constructor
      · refine hlogs.trans ?_
        rw [show (w.unmount first).2.host.log = _ from hlog,
          List.append_assoc]
        rfl
      · rw [← hsize, List.length_cons, ← Nat.add_assoc]
        exact congrArg (· + 1) hsizes

/-- Clearing a host logs that every instance is gone, each of them once,
and leaves nobody. -/
theorem clear_logged (hs : w.host.arena.Sound) :
    w.clear.host.log = w.host.log ++ w.host.arena.ids.map .unmount
      ∧ w.clear.host.arena.size = 0 := by
  obtain ⟨hlog, hsize⟩ := unmountAll_logged w.host.arena.ids hs
    (Arena.nodup_idsFrom _ 1) fun id hid => Arena.mem_ids_iff.1 hid
  exact ⟨hlog, Nat.add_eq_right.1 hsize⟩

end World

-- ============================================================= one step

namespace Replays

variable {before : List Lifecycle} {w : World}

/-- A mount begins a story. -/
theorem mount (h : Replays (before ++ w.host.log) w.host.arena)
    (component : Nat) (d : Definition) (passed : Props) :
    let v := (w.mount component d passed).2
    Replays (before ++ v.host.log) v.host.arena := by
  intro v
  cases hp : passedItems passed with
  | error e =>
      have hv : v = w := congrArg Prod.snd
        (World.mount_refused w component d hp)
      rw [hv]
      exact h
  | ok data =>
      obtain ⟨id, u, hmount, hnew, hget, -, hapart⟩ :=
        World.mount_spec h.sound component d hp
      obtain ⟨hlog, hsize⟩ := World.mount_logged h.sound hmount
      have hv : v = u := congrArg Prod.snd hmount
      have hempty : about id (before ++ w.host.log) = [] :=
        Classical.byContradiction fun hsome => hnew (h.given id hsome)
      rw [hv, hlog, ← List.append_assoc]
      refine h.extend hapart (fun e he => ?_) (Arena.given_of_get? hget)
        ?_ ?_
      · rw [List.mem_singleton.1 he]
        rfl
      · rw [hempty, World.contains_of_get? hget]
        exact .living 0
      · rw [hsize]
        rfl

/-- A request continues the story of the name that it is made under. -/
theorem ask (h : Replays (before ++ w.host.log) w.host.arena)
    (id : InstanceId) (r : Request) :
    let v := (w.request id r).2
    Replays (before ++ v.host.log) v.host.arena := by
  intro v
  cases hi : w.get? id with
  | none =>
      have hv : v = w := congrArg Prod.snd (World.request_refused hi r)
      rw [hv]
      exact h
  | some i =>
      obtain ⟨-, hleft, -, hapart⟩ := World.request_served h.sound hi r
      have hgiven := hapart.given id (Arena.given_of_get? hi)
      have hnow := World.contains_of_get? hi
      have hstory := h.told id
      rw [hnow] at hstory
      -- an unmount ends the story, all else adds an update at most
      rcases World.request_logged hi r with
        ⟨hgone, hlog, hsize⟩ | ⟨hstays, hlog, hsize⟩
      · rw [hgone] at hleft
        have hnobody : v.host.arena.contains id = false :=
          congrArg Option.isSome hleft
        rw [hlog, ← List.append_assoc]
        refine h.extend hapart (fun e he => ?_) hgiven ?_ hsize
        · rw [List.mem_singleton.1 he]
          rfl
        · rw [hnobody]
          exact hstory.unmount
      · have hthere : v.host.arena.contains id = true :=
          (congrArg Option.isSome hleft).trans hstays
        rcases hlog with hlog | hlog
        · rw [hlog]
          exact h.touch hapart hnow hthere hsize
        · rw [hlog, ← List.append_assoc]
          refine h.extend hapart (fun e he => ?_) hgiven ?_
            (congrArg (· + 0) hsize)
          · rw [List.mem_singleton.1 he]
            rfl
          · rw [hthere]
            exact hstory.update

theorem edit (h : Replays (before ++ w.host.log) w.host.arena)
    (id : InstanceId) (f : Instance → Instance) :
    Replays (before ++ (w.edit id f).host.log)
      (w.edit id f).host.arena := by
  unfold World.edit
  cases hi : w.get? id with
  | none => exact h
  | some i =>
      obtain ⟨hget, hapart⟩ := World.put_spec h.sound hi (f i)
      exact h.touch hapart (World.contains_of_get? hi)
        (World.contains_of_get? hget)
        (Arena.size_replace w.host.arena id (f i))

/-- Unmounting several names ends their stories one after the other. -/
theorem unmountAll (ids : List InstanceId) : ∀ {w : World},
    Replays (before ++ w.host.log) w.host.arena →
      let v := ids.foldl (fun w id => (w.unmount id).2) w
      Replays (before ++ v.host.log) v.host.arena := by
  induction ids with
  | nil => intro w h; exact h
  | cons first rest ih => intro w h; exact ih (h.ask first .unmount)

end Replays

/-- Every operation keeps history and arena in agreement. -/
theorem Chronicle.replays_step {c : Chronicle}
    (h : Replays c.history c.world.host.arena) (operation : Operation) :
    Replays (c.step operation).history
      (c.step operation).world.host.arena := by
  cases operation with
  | mount component d passed => exact h.mount component d passed
  | ask id r => exact h.ask id r
  | edit id f => exact h.edit id f
  | clear => exact Replays.unmountAll c.world.host.arena.ids h
  | elsewhere around => exact h
  | drainLog =>
      -- what is drained moves from the log to the drained entries
      have hsame : (c.step .drainLog).history = c.history :=
        List.append_nil _
      rw [hsame]
      exact h

theorem Chronicle.replays_finish (operations : List Operation) :
    ∀ {c : Chronicle}, Replays c.history c.world.host.arena →
      Replays (c.finish operations).history
        (c.finish operations).world.host.arena := by
  induction operations with
  | nil => intro c h; exact h
  | cons operation rest ih =>
      intro c h
      exact ih (Chronicle.replays_step h operation)

-- ========================================================== main results

/-- Whatever is done to a new host, the history of its log, drained or
not, tells of every name one mount, then updates, then at most one
unmount and nothing after it. The names with a mount and no unmount are
those that name an instance, and just these are never answered with
`unknownInstance`. There are as many instances as mounts less unmounts.
A mount never answers with a name that the history knows, and enters the
name into it. Clearing the host leaves nobody, and adds an unmount for
each instance that was there. -/
theorem history_replays_to_arena (around : Ambient)
    (operations : List Operation) :
    let c := (Chronicle.start around).finish operations
    let w := c.world
    (∀ id, Story id (about id c.history) (w.host.arena.contains id))
    ∧ (∀ id, w.host.arena.contains id = true
        ↔ .mount id ∈ c.history ∧ .unmount id ∉ c.history)
    ∧ (∀ id r, (w.request id r).1.isUnknown
        = !w.host.arena.contains id)
    ∧ w.host.arena.size + c.history.countP Lifecycle.isUnmount
        = c.history.countP Lifecycle.isMount
    ∧ (∀ component d passed id v,
        w.mount component d passed = (.ok id, v) →
        about id c.history = []
          ∧ v.host.log = w.host.log ++ [.mount id])
    ∧ w.clear.host.arena.size = 0
    ∧ (∀ id, w.clear.host.arena.contains id = false)
    ∧ ∃ names : List InstanceId, names.Nodup
        ∧ (∀ id, id ∈ names ↔ w.host.arena.contains id = true)
        ∧ w.clear.host.log = w.host.log ++ names.map .unmount := by
  intro c w
  have h : Replays c.history w.host.arena :=
    Chronicle.replays_finish operations .nothing
  obtain ⟨hlog, hsize⟩ := World.clear_logged h.sound
  refine ⟨h.told, fun id => ?_,
    fun id r => World.isUnknown_request h.sound id r, h.count, ?_, hsize,
    fun id => ?_, w.host.arena.ids, Arena.nodup_idsFrom _ 1,
    fun id => Arena.mem_ids_iff, hlog⟩
  · rw [(h.told id).now_iff, Lifecycle.mem_about, Lifecycle.mem_about]
    simp [Lifecycle.id]
  · intro component d passed id v hmount
    have hnew := World.mount_fresh h.sound hmount
    exact ⟨Classical.byContradiction fun hsome =>
        hnew (h.given id hsome), (World.mount_logged h.sound hmount).1⟩
  · exact congrArg Option.isSome ((World.clear_spec h.sound).2.2.2 id)

/-- A gauge is mounted, updated, and unmounted; the next one moves into
its slot, and the log is drained in between. -/
def gaugeOperations : List Operation :=
  [.mount 0 gauge (gaugeProps 1), .ask (.slot 1 1) .renderPass,
    .ask (.slot 1 1) .syncBindings, .drainLog,
    .ask (.slot 1 1) .unmount, .mount 0 gauge (gaugeProps 5),
    .ask (.slot 1 1) .render]

/-- The name of the next gauge is a third one. -/
theorem gauge_history_replays :
    let c := (Chronicle.start .start).finish gaugeOperations
    c.history = [.mount (.slot 1 1), .update (.slot 1 1),
        .unmount (.slot 1 1), .mount (.slot 1 3)]
      ∧ (c.world.mount 0 gauge (gaugeProps 7)).1.toOption
        = some (.slot 2 1)
      ∧ about (.slot 2 1) c.history = [] := by
  intro c
  have hmount : c.world.mount 0 gauge (gaugeProps 7)
      = (.ok (.slot 2 1), (c.world.mount 0 gauge (gaugeProps 7)).2) := rfl
  obtain ⟨-, -, -, -, hnew, -⟩ :=
    history_replays_to_arena .start gaugeOperations
  exact ⟨by decide +kernel, by decide +kernel,
    (hnew 0 gauge (gaugeProps 7) (.slot 2 1) _ hmount).1⟩

end RuledList
