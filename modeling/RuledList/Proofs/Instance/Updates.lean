/-
What becomes of the events that wait. Draining them goes from the first
to the last, and each one does one of four things (`Sync.Applied`): it
binds a property, it replaces the list of items, it asks for a list of
items and spells none, or it is of no concern to the surface.

# The last one wins

What can be read off an instance afterwards, a property that is bound or
the list of items, is for each event either what the event writes or what
stood there before. Such a reading ends as the last thing written, or as
it was if nothing was (`Sync.foldl_read`); no more than the step has to
be known about it.

# Batches do not matter

The events left over and the warnings are piled up behind those from
before, and are never looked at (`Sync.apply_behind`). So a drain of many
events is a drain of the first of them followed by a drain of the others
(`Instance.syncBindings_append`), and any number of cuts may be made
(`Instance.syncEach_eq`).
-/
import RuledList.Proofs.Instance.Binding
import RuledList.Proofs.Instance.Items
import RuledList.Proofs.Instance.Run

namespace RuledList

-- =========================================================== single events

namespace Event

/-- The value that an event asks to bind a property to. -/
def valueFor? (property : String) (e : Event) : Option Value :=
  if e.name = updateName property then some e.payload else none

/-- The list of items that an event asks for and spells. -/
def itemsFor? (e : Event) : Option (List Props) :=
  if e.name = updateName dataName then
    match itemsOfValue e.payload with
    | .ok data => some data
    | .error _ => none
  else none

/-- The warning that an event costs which asks for a list of items and
spells none. -/
def warning? (e : Event) : Option Notice :=
  if e.name = updateName dataName then
    match itemsOfValue e.payload with
    | .ok _ => none
    | .error err => some (.updateIgnored e.name err)
  else none

/-- An event that asks for one property asks for no other. -/
theorem valueFor?_other {e : Event} {name property : String}
    (hname : e.name = updateName name) (h : name ≠ property) :
    e.valueFor? property = none := by
  unfold valueFor?
  rw [hname, if_neg fun heq => h (updateName_inj.1 heq)]

theorem itemsFor?_eq_some_iff {e : Event} {data : List Props} :
    e.itemsFor? = some data ↔
      e.name = updateName dataName ∧ SpellsItems e.payload data := by
  rw [← itemsOfValue_eq_ok_iff]
  unfold itemsFor?
  by_cases hname : e.name = updateName dataName
  · rw [if_pos hname]
    cases itemsOfValue e.payload <;> simp [hname]
  · simp [hname]

theorem warning?_eq_some_iff {e : Event} {n : Notice} :
    e.warning? = some n ↔ e.name = updateName dataName
      ∧ ∃ err, Misspells e.payload err ∧ n = .updateIgnored e.name err := by
  simp only [← itemsOfValue_eq_error_iff]
  unfold warning?
  by_cases hname : e.name = updateName dataName
  · rw [if_pos hname]
    cases itemsOfValue e.payload <;> simp [hname, eq_comm]
  · simp [hname]

end Event

namespace Surface

/-- An event that is left to the listener: it asks for no property to be
bound, for one that the surface does not have, or for a list of items
that it does not spell. -/
inductive Leaves (s : Surface) (e : Event) : Prop where
  | plain (h : ∀ name, e.name ≠ Event.updateName name)
  | foreign {name : String} (hname : e.name = Event.updateName name)
      (hdata : name ≠ dataName) (h : s.properties.contains name = false)
  | misspelt {err : BindingError}
      (hname : e.name = Event.updateName dataName)
      (h : Misspells e.payload err)

/-- An event is left exactly when it asks for no write that the surface
takes. -/
theorem binding?_eq_none_iff {s : Surface} {e : Event} :
    s.binding? e = none ↔ s.Leaves e := by
  unfold binding?
  cases hp : e.boundProperty? with
  | none =>
      refine ⟨fun _ => .plain fun name hname => ?_, fun _ => rfl⟩
      rw [Event.boundProperty?_eq_some_iff.2 hname] at hp
      cases hp
  | some name =>
      have hname := Event.boundProperty?_eq_some_iff.1 hp
      have hone : ∀ other, e.name = Event.updateName other →
          other = name := fun other hother =>
        Event.updateName_inj.1 (hother.symm.trans hname)
      have htaken : (some name).bind (fun name =>
            if s.takes name e.payload then some (name, e.payload)
            else none) = none ↔ s.takes name e.payload = false := by
        simp
      rw [htaken]
      unfold takes
      by_cases hdata : name = dataName
      · rw [if_pos hdata]
        subst hdata
        constructor
        · intro h
          cases hv : itemsOfValue e.payload with
          | ok data => rw [hv] at h; cases h
          | error err =>
              exact .misspelt hname (itemsOfValue_eq_error_iff.1 hv)
        · intro h
          cases h with
          | plain h => exact absurd hname (h _)
          | foreign hother hne => exact absurd (hone _ hother) hne
          | misspelt _ h =>
              rw [itemsOfValue_eq_error_iff.2 h]
              rfl
      · rw [if_neg hdata]
        refine ⟨fun h => .foreign hname hdata h, fun h => ?_⟩
        cases h with
        | plain h => exact absurd hname (h _)
        | foreign hother _ h => rwa [hone _ hother] at h
        | misspelt hother => exact absurd (hone _ hother).symm hdata

instance (s : Surface) : DecidablePred s.Leaves := fun e =>
  decidable_of_iff (s.binding? e = none) binding?_eq_none_iff

end Surface

-- ================================================================ one step

namespace Sync

/-- What one event does. -/
inductive Applied (s : Surface) (x : Sync) (e : Event) : Sync → Prop where
  /-- It binds a property. -/
  | bound {name : String} (hname : e.name = Event.updateName name)
      (h : s.isBindable name = true) :
      Applied s x e { x with bound := x.bound.insert name e.payload }
  /-- It replaces the list of items. -/
  | items {data : List Props} (hname : e.name = Event.updateName dataName)
      (h : itemsOfValue e.payload = .ok data) :
      Applied s x e { x with data }
  /-- It asks for a list of items and spells none. -/
  | misspelt {err : BindingError}
      (hname : e.name = Event.updateName dataName)
      (h : itemsOfValue e.payload = .error err) :
      Applied s x e { x.pass e with
        notices := x.notices ++ [.updateIgnored e.name err] }
  /-- It asks for nothing that the surface has. -/
  | foreign (h : ∀ name, e.name = Event.updateName name →
      s.isForeign name = true) : Applied s x e (x.pass e)

theorem applied_apply (s : Surface) (x : Sync) (e : Event) :
    Applied s x e (apply s x e) := by
  unfold apply
  cases hp : e.boundProperty? with
  | none =>
      refine .foreign fun name hname => ?_
      rw [Event.boundProperty?_eq_some_iff.2 hname] at hp
      cases hp
  | some name =>
      have hname := Event.boundProperty?_eq_some_iff.1 hp
      by_cases hdata : name = dataName
      · subst hdata
        simp only [↓reduceIte]
        cases hv : itemsOfValue e.payload with
        | ok data => exact .items hname hv
        | error err => exact .misspelt hname hv
      · simp only [hdata, ↓reduceIte]
        by_cases hc : s.properties.contains name = true
        · rw [if_pos hc]
          exact .bound hname (Surface.isBindable_iff.2 ⟨hdata, hc⟩)
        · rw [if_neg hc]
          refine .foreign fun other hother => ?_
          rw [Event.updateName_inj.1 (hother.symm.trans hname)]
          rw [Bool.not_eq_true] at hc
          exact Surface.isForeign_iff.2 ⟨hdata, hc⟩

variable {s : Surface}

/-- A property that can be bound holds what the event asks to bind it to,
or else what it held. -/
theorem get?_bound_apply {property : String}
    (hb : s.isBindable property = true) (x : Sync) (e : Event) :
    (apply s x e).bound.get? property
      = (e.valueFor? property).or (x.bound.get? property) := by
  have hdata := (Surface.isBindable_iff.1 hb).1
  generalize apply s x e = y, applied_apply s x e = hy
  cases hy with
  | @bound name hname h =>
      rw [OrdMap.get?_insert]
      by_cases hp : name = property
      · subst hp
        unfold Event.valueFor?
        rw [if_pos rfl, if_pos hname, Option.some_or]
      · rw [if_neg hp, Event.valueFor?_other hname hp, Option.none_or]
  | items hname =>
      rw [Event.valueFor?_other hname (Ne.symm hdata), Option.none_or]
  | misspelt hname =>
      rw [Event.valueFor?_other hname (Ne.symm hdata), Option.none_or]
      rfl
  | foreign h =>
      have hnone : e.valueFor? property = none := by
        unfold Event.valueFor?
        refine if_neg fun hname => ?_
        have hforeign := h property hname
        rw [Surface.isForeign_of_bindable hb] at hforeign
        cases hforeign
      rw [hnone, Option.none_or]
      rfl

/-- Nothing else is ever bound. -/
theorem get?_bound_apply_other {name : String}
    (hb : s.isBindable name = false) (x : Sync) (e : Event) :
    (apply s x e).bound.get? name = x.bound.get? name := by
  generalize apply s x e = y, applied_apply s x e = hy
  cases hy with
  | @bound property hname h =>
      have hne : property ≠ name := by
        intro heq
        rw [heq, hb] at h
        cases h
      rw [OrdMap.get?_insert, if_neg hne]
  | items => rfl
  | misspelt => rfl
  | foreign => rfl

/-- An event that binds a property does not ask for a list of items. -/
theorem ne_updateData_of_bindable {e : Event} {name : String}
    (hname : e.name = Event.updateName name)
    (h : s.isBindable name = true) :
    e.name ≠ Event.updateName dataName := by
  intro hdata
  have heq := Event.updateName_inj.1 (hname.symm.trans hdata)
  exact (Surface.isBindable_iff.1 h).1 heq

/-- Neither does one that is of no concern to the surface. -/
theorem ne_updateData_of_foreign {e : Event}
    (h : ∀ name, e.name = Event.updateName name →
      s.isForeign name = true) :
    e.name ≠ Event.updateName dataName := by
  intro hdata
  exact (Surface.isForeign_iff.1 (h dataName hdata)).1 rfl

/-- The list of items is the one that the event asks for and spells, or
else the one that was there. -/
theorem data_apply (x : Sync) (e : Event) :
    some (apply s x e).data = e.itemsFor?.or (some x.data) := by
  unfold Event.itemsFor?
  generalize apply s x e = y, applied_apply s x e = hy
  cases hy with
  | bound hname h =>
      rw [if_neg (ne_updateData_of_bindable hname h)]
      rfl
  | items hname h =>
      rw [if_pos hname, h]
      rfl
  | misspelt hname h =>
      rw [if_pos hname, h]
      rfl
  | foreign h =>
      rw [if_neg (ne_updateData_of_foreign h)]
      rfl

/-- An event costs a warning when it asks for a list of items and spells
none. -/
theorem notices_apply (x : Sync) (e : Event) :
    (apply s x e).notices = x.notices ++ e.warning?.toList := by
  unfold Event.warning?
  generalize apply s x e = y, applied_apply s x e = hy
  cases hy with
  | bound hname h =>
      rw [if_neg (ne_updateData_of_bindable hname h)]
      exact (List.append_nil _).symm
  | items hname h =>
      rw [if_pos hname, h]
      exact (List.append_nil _).symm
  | misspelt hname h =>
      rw [if_pos hname, h]
      rfl
  | foreign h =>
      rw [if_neg (ne_updateData_of_foreign h)]
      exact (List.append_nil _).symm

-- ============================================================= many steps

/-- A reading that every event writes or leaves alone ends as the last
thing written, or as it was. -/
theorem foldl_read {α : Type} (read : Sync → Option α)
    (write : Event → Option α)
    (h : ∀ x e, read (apply s x e) = (write e).or (read x))
    (events : List Event) : ∀ x : Sync,
    read (events.foldl (apply s) x)
      = (events.filterMap write).getLast?.or (read x) := by
  induction events with
  | nil => exact fun _ => rfl
  | cons e rest ih =>
      intro x
      rw [List.foldl_cons, ih, h]
      cases hw : write e with
      | none => rw [List.filterMap_cons_none hw, Option.none_or]
      | some v =>
          rw [List.filterMap_cons_some hw, List.getLast?_cons,
            Option.some_or, Option.some_or]
          cases (rest.filterMap write).getLast? <;> rfl

theorem notices_foldl (events : List Event) : ∀ x : Sync,
    (events.foldl (apply s) x).notices
      = x.notices ++ events.filterMap Event.warning? := by
  induction events with
  | nil => exact fun x => (List.append_nil x.notices).symm
  | cons e rest ih =>
      intro x
      rw [List.foldl_cons, ih, notices_apply, List.append_assoc]
      cases hw : e.warning? with
      | none => rw [List.filterMap_cons_none hw]; rfl
      | some n => rw [List.filterMap_cons_some hw]; rfl

/-- With more events left over and more warnings from before. -/
def behind (x : Sync) (rest : List Event) (notices : List Notice) : Sync :=
  { x with rest := rest ++ x.rest, notices := notices ++ x.notices }

/-- Applying an event does not look at what is left over or warned of. -/
theorem apply_behind (x : Sync) (rest : List Event)
    (notices : List Notice) (e : Event) :
    apply s (x.behind rest notices) e
      = (apply s x e).behind rest notices := by
  unfold apply behind pass
  cases e.boundProperty? with
  | none => simp only [List.append_assoc]
  | some name =>
      by_cases hdata : name = dataName
      · simp only [hdata, ↓reduceIte]
        cases itemsOfValue e.payload <;> simp only [List.append_assoc]
      · simp only [hdata, ↓reduceIte]
        by_cases hc : s.properties.contains name = true
        · simp only [hc, ↓reduceIte]
        · simp only [hc, Bool.false_eq_true, ↓reduceIte,
            List.append_assoc]

theorem foldl_behind (rest : List Event) (notices : List Notice)
    (events : List Event) : ∀ x : Sync,
    events.foldl (apply s) (x.behind rest notices)
      = (events.foldl (apply s) x).behind rest notices := by
  induction events with
  | nil => exact fun _ => rfl
  | cons e es ih =>
      intro x
      rw [List.foldl_cons, List.foldl_cons, apply_behind, ih]

end Sync

-- =============================================================== draining

theorem Ambient.tellAll_nil (a : Ambient) : a.tellAll [] = a := by
  unfold tellAll
  rw [List.append_nil]

theorem Ambient.tellAll_append (a : Ambient) (ns ms : List Notice) :
    a.tellAll (ns ++ ms) = (a.tellAll ns).tellAll ms := by
  unfold tellAll
  rw [List.append_assoc]

namespace Instance

/-- The instance with more events behind those that wait. -/
def awaiting (i : Instance) (events : List Event) : Instance :=
  { i with emitter :=
      { i.emitter with queue := i.emitter.queue ++ events } }

/-- The instance with no event waiting. -/
def idle (i : Instance) : Instance :=
  { i with emitter := { i.emitter with queue := [] } }

/-- Let events come in pieces, and drain them after each piece; what was
handed over is collected. -/
def syncEach : List (List Event) → Instance → Ambient →
    List Event × Instance × Ambient
  | [], i, a => ([], i, a)
  | piece :: pieces, i, a =>
    let (left, i, a) := (i.awaiting piece).syncBindings a
    let (more, i, a) := syncEach pieces i a
    (left ++ more, i, a)

/-- Draining events when no others wait. -/
theorem syncBindings_awaiting (i : Instance) (events : List Event)
    (a : Ambient) :
    let out := events.foldl (Sync.apply i.definition.surface)
      ⟨i.bound, i.data, [], []⟩
    (i.idle.awaiting events).syncBindings a
      = (out.rest, { i with bound := out.bound, data := out.data }.idle,
          a.tellAll out.notices) := rfl

/-- Draining some events and then some more is draining all of them. -/
theorem syncBindings_append (i : Instance) (xs ys : List Event)
    (a : Ambient) :
    (i.idle.awaiting (xs ++ ys)).syncBindings a
      = let (left, j, b) := (i.idle.awaiting xs).syncBindings a
        let (more, k, c) := (j.idle.awaiting ys).syncBindings b
        (left ++ more, k, c) := by
  simp only [syncBindings_awaiting, List.foldl_append]
  generalize xs.foldl (Sync.apply i.definition.surface)
    ⟨i.bound, i.data, [], []⟩ = out
  -- what the first events left over stays in front of the rest
  have hbehind : out
      = Sync.behind ⟨out.bound, out.data, [], []⟩ out.rest out.notices := by
    unfold Sync.behind
    rw [List.append_nil, List.append_nil]
  rw [hbehind, Sync.foldl_behind, ← hbehind]
  unfold Sync.behind
  rw [Ambient.tellAll_append]
  rfl

/-- Draining pieces one after the other is draining all of them. -/
theorem syncEach_eq (pieces : List (List Event)) :
    ∀ (i : Instance) (a : Ambient),
      syncEach pieces i.idle a
        = (i.idle.awaiting pieces.flatten).syncBindings a := by
  induction pieces with
  | nil =>
      intro i a
      rw [List.flatten_nil, syncBindings_awaiting]
      show ([], i.idle, a) = ([], i.idle, a.tellAll [])
      rw [Ambient.tellAll_nil]
  | cons piece rest ih =>
      intro i a
      rw [List.flatten_cons, syncBindings_append, syncEach]
      simp only [syncBindings_awaiting, ih]
      rfl

end Instance

-- =========================================================== main result

/-- Draining the events of an instance, whatever waits. Afterwards nothing
waits, and nothing but what is bound and the list of items has changed. A
property that can be bound holds what the last event for it asked for, or
what it held if there is none; no other name is touched. The list of
items is the one that the last event asked for which spelled any, or the
one that was there. Handed over, in order, are the events that ask for
nothing to be bound, for a property that the surface does not have, or
for a list of items that they do not spell; each of the last kind costs
one warning, which says why. And the events may as well be drained in
pieces, however they are cut: the instance and its surroundings end the
same, and what is handed over is the same in all. -/
theorem sync_applies_last_updates (i : Instance) (a : Ambient) :
    let s := i.definition.surface
    let events := i.emitter.queue
    let left := (i.syncBindings a).1
    let j := (i.syncBindings a).2.1
    let b := (i.syncBindings a).2.2
    j = { i.idle with bound := j.bound, data := j.data }
    ∧ (∀ property, s.isBindable property = true →
        j.bound.get? property
          = (events.filterMap (Event.valueFor? property)).getLast?.or
              (i.bound.get? property))
    ∧ (∀ name, s.isBindable name = false →
        j.bound.get? name = i.bound.get? name)
    ∧ j.data = (events.filterMap Event.itemsFor?).getLast?.getD i.data
    ∧ (∀ (e : Event) (data : List Props), e.itemsFor? = some data ↔
        e.name = Event.updateName dataName ∧ SpellsItems e.payload data)
    ∧ left = events.filter (fun e => s.Leaves e)
    ∧ b = a.tellAll (events.filterMap Event.warning?)
    ∧ (∀ (e : Event) (n : Notice), e.warning? = some n ↔
        e.name = Event.updateName dataName
          ∧ ∃ err, Misspells e.payload err
            ∧ n = .updateIgnored e.name err ∧ n.level = .warn)
    ∧ ∀ pieces : List (List Event), pieces.flatten = events →
        Instance.syncEach pieces i.idle a = i.syncBindings a := by
  intro s events left j b
  refine ⟨rfl, fun property hb => ?_, fun name hb => ?_, ?_,
    fun e data => Event.itemsFor?_eq_some_iff, ?_, ?_,
    fun e n => ?_, fun pieces hpieces => ?_⟩
  · exact Sync.foldl_read (fun x => x.bound.get? property) _
      (Sync.get?_bound_apply hb) events _
  · have hnone : events.filterMap (fun _ => (none : Option Value)) = [] :=
      List.filterMap_eq_nil_iff.2 fun _ _ => rfl
    have hkept := Sync.foldl_read (fun x => x.bound.get? name)
      (fun _ => none) (Sync.get?_bound_apply_other hb) events
      ⟨i.bound, i.data, [], []⟩
    rw [hnone] at hkept
    exact hkept
  · have hread := Sync.foldl_read (fun x => some x.data) _
      (Sync.data_apply (s := s)) events ⟨i.bound, i.data, [], []⟩
    rw [Option.or_some] at hread
    exact Option.some.inj hread
  · rw [show left = _ from (i.syncBindings_eq a).1]
    refine List.filter_congr fun e _ => ?_
    rw [Bool.eq_iff_iff, Option.isNone_iff_eq_none, decide_eq_true_iff]
    exact Surface.binding?_eq_none_iff
  · exact congrArg a.tellAll (Sync.notices_foldl events _)
  · rw [Event.warning?_eq_some_iff]
    constructor
    · intro h
      obtain ⟨hname, err, herr, hn⟩ := h
      exact ⟨hname, err, herr, hn, by rw [hn]; rfl⟩
    · intro h
      obtain ⟨hname, err, herr, hn, -⟩ := h
      exact ⟨hname, err, herr, hn⟩
  · rw [Instance.syncEach_eq, hpieces]
    rfl

/-- Events of every kind: the size is asked for twice, the items once in
vain. -/
def mixedEvents : List Event :=
  [⟨"update:size", .int 5⟩, ⟨"t", .null⟩,
    ⟨"update:data", .array [.object [("a", .null)]]⟩,
    ⟨"update:size", .int 7⟩, ⟨"update:data", .int 3⟩,
    ⟨"update:x", .null⟩]

/-- The gauge with these events waiting. -/
def crowdedGauge : Instance := (gaugeMoment 1).self.awaiting mixedEvents

/-- The second size stays, the items are the ones that were spelled, three
events are handed over, and one warning is given; draining the first two
events and then the others is the same. -/
theorem crowded_gauge_applies_last_updates :
    let pieces := [mixedEvents.take 2, [], mixedEvents.drop 2]
    let out := crowdedGauge.syncBindings .start
    crowdedGauge.definition.surface.isBindable "size" = true
      ∧ out.2.1.bound.get? "size" = some (.int 7)
      ∧ crowdedGauge.definition.surface.isBindable "x" = false
      ∧ out.2.1.bound.get? "x" = none
      ∧ out.2.1.data = [OrdMap.empty.insert "a" .null]
      ∧ out.1.map Event.name = ["t", "update:data", "update:x"]
      ∧ out.2.2.notices.length = 1
      ∧ pieces.flatten = crowdedGauge.emitter.queue
      ∧ Instance.syncEach pieces crowdedGauge.idle .start = out := by
  intro pieces out
  obtain ⟨-, hbound, hother, hdata, -, hleft, htold, -, hpieces⟩ :=
    sync_applies_last_updates crowdedGauge .start
  have hsize : crowdedGauge.definition.surface.isBindable "size" = true := by
    decide
  have hx : crowdedGauge.definition.surface.isBindable "x" = false := by
    decide
  refine ⟨hsize, (hbound "size" hsize).trans rfl, hx,
    (hother "x" hx).trans rfl, hdata.trans rfl, ?_, ?_, rfl,
    hpieces pieces rfl⟩
  · rw [show out.1 = _ from hleft]
    decide
  · rw [show out.2.2 = _ from htold]
    rfl

end RuledList
