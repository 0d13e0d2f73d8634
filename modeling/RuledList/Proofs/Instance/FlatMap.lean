/-
An instance is a view of one flat property map. Mounting splits the map
that is passed into what is bound, the attributes and the list of items;
everything that is done to the instance afterwards can be told as an
edit of the map itself, and the instance always shows the edited map as
a fresh mount would.

# Edits

`Moment.edits` says what a move does to the map: a property that is
bound is an insert of its name, one that is unbound a removal, a new
list of items an insert of `data`, and draining the events is one insert
for each event that is applied (`Surface.binding?`). A move that fails
makes no edit.

# The simulation

`Instance.Views i p` says that `i` shows the map `p`. Every write that
the surface takes keeps the view (`Views.write`), because the parts of
the split are filters by name and filters commute with writes and
removals. `Moment.views_after` is the step; `Moment.views_finish` is the
run, with the edits collected along it.

# What a render shows

Two instances that show one map and read the same globals render the
same tree — unless a render function looks at the queue. The text of a
render context counts the waiting events, so an instance that has been
rendered before shows another number (`output_counts_waiting`). With
equally many events waiting nothing is left to tell the two apart.
-/
import RuledList.Proofs.Instance.Binding
import RuledList.Proofs.Instance.Mount
import RuledList.Proofs.Instance.Output
import RuledList.Proofs.Instance.Run
import RuledList.Proofs.OrdMap.Write

namespace RuledList

-- ============================================== items spelled as values

/-- The property map that a map spelled as a value holds is the map
itself. -/
theorem Props.ofValue?_toValue (p : Props) :
    Props.ofValue? p.toValue = some p := by
  show some (OrdMap.ofList p.entries) = some p
  rw [OrdMap.ofList_entries]

/-- Items spelled as values are read back from any position on. -/
theorem itemsFrom_map_toValue (data : List Props) :
    ∀ index, itemsFrom index (data.map Props.toValue) = .ok data := by
  induction data with
  | nil => intro index; rfl
  | cons item rest ih =>
      intro index
      rw [List.map_cons, itemsFrom, Props.ofValue?_toValue]
      show (itemsFrom (index + 1) _).map _ = _
      rw [ih]
      rfl

theorem itemsOfValue_itemsToValue (data : List Props) :
    itemsOfValue (itemsToValue data) = .ok data :=
  itemsFrom_map_toValue data 0

-- ============================================================ the edits

/-- A change of a flat property map. -/
inductive Edit where
  | insert (name : String) (v : Value)
  | remove (name : String)

/-- Make a change. -/
def Edit.apply (p : Props) : Edit → Props
  | .insert name v => p.insert name v
  | .remove name => p.erase name

/-- Make several changes, in order. -/
def Edit.applyAll (p : Props) (edits : List Edit) : Props :=
  edits.foldl Edit.apply p

/-- The changes of the flat map that a move amounts to. -/
def Moment.edits (m : Moment) : Move → List Edit
  | .setProp name v =>
    match (m.self.setProp name v).1 with
    | .ok () => [.insert name v]
    | .error _ => []
  | .unsetProp name =>
    if m.self.bound.contains name then [.remove name] else []
  | .setData data => [.insert dataName (itemsToValue data)]
  | .setDataValue v =>
    match (m.self.setDataValue v).1 with
    | .ok () => [.insert dataName v]
    | .error _ => []
  | .syncBindings =>
    (m.self.emitter.queue.filterMap
      m.self.definition.surface.binding?).map fun w => .insert w.1 w.2
  | .renderPass | .takeEvents | .elsewhere _ => []

/-- The changes that a run amounts to. -/
def Moment.editsOf (m : Moment) (moves : List Move) : List Edit :=
  (m.steps moves).flatMap fun step => step.1.edits step.2

-- ============================================================= the view

namespace Instance

/-- An instance shows a map: its parts are the ones into which a mount
splits the map. -/
structure Views (i : Instance) (p : Props) : Prop where
  bound : i.bound = boundOf i.definition.surface p
  attrs : i.attrs = attrsOf i.definition.surface p
  data : passedItems p = .ok i.data

theorem views_mounted (component : Nat) (d : Definition) {p : Props}
    {data : List Props} (h : passedItems p = .ok data) :
    (mounted component d p data).Views p := ⟨rfl, rfl, h⟩

namespace Views

variable {i : Instance} {p : Props}

/-- Replacing the list of items and writing it into the map. -/
theorem write_data (h : i.Views p) {v : Value} {data : List Props}
    (hv : itemsOfValue v = .ok data) :
    ({ i with data } : Instance).Views (p.insert dataName v) := by
  refine ⟨?_, ?_, ?_⟩
  · show i.bound = _
    rw [h.bound]
    exact (OrdMap.filter_insert_drop _
      (Surface.isBindable_dataName _) p v).symm
  · show i.attrs = _
    rw [h.attrs]
    exact (OrdMap.filter_insert_drop i.definition.surface.isForeign
      (Surface.isForeign_dataName _) p v).symm
  · unfold passedItems
    rw [OrdMap.get?_insert, if_pos rfl]
    exact hv

/-- Binding a property and writing it into the map. -/
theorem write_bound (h : i.Views p) {name : String} (v : Value)
    (hb : i.definition.surface.isBindable name = true) :
    ({ i with bound := i.bound.insert name v } : Instance).Views
      (p.insert name v) := by
  refine ⟨?_, ?_, ?_⟩
  · show i.bound.insert name v = _
    rw [h.bound]
    exact (OrdMap.filter_insert_keep _ hb p v).symm
  · show i.attrs = _
    rw [h.attrs]
    exact (OrdMap.filter_insert_drop i.definition.surface.isForeign
      (Surface.isForeign_of_bindable hb) p v).symm
  · have hd := h.data
    unfold passedItems at hd ⊢
    rw [OrdMap.get?_insert, if_neg (Surface.isBindable_iff.1 hb).1]
    exact hd

/-- Every write that the surface takes goes into the map. -/
theorem write (h : i.Views p) {w : String × Value}
    (ht : i.definition.surface.takes w.1 w.2 = true) :
    (i.write w).Views (p.insert w.1 w.2) := by
  obtain ⟨name, v⟩ := w
  unfold Instance.write
  by_cases hd : name = dataName
  · subst hd
    obtain ⟨data, hdata, hset⟩ := setDataValue_of_takes (i := i) ht
    rw [if_pos rfl, hset]
    exact h.write_data hdata
  · have hb := Surface.isBindable_of_takes hd ht
    rw [if_neg hd, setProp_of_bindable v hb]
    exact h.write_bound v hb

/-- A bound name is declared, and not the list of items. -/
theorem isBindable_of_bound (h : i.Views p) {name : String}
    (hb : i.bound.contains name = true) :
    i.definition.surface.isBindable name = true := by
  rw [h.bound] at hb
  unfold boundOf at hb
  rw [OrdMap.contains_filter, Bool.and_eq_true] at hb
  exact hb.1

/-- The list of items and undeclared names are never bound. -/
theorem not_bound (h : i.Views p) {name : String}
    (hname : name = dataName
      ∨ i.definition.surface.properties.contains name = false) :
    i.bound.contains name = false := by
  cases hc : i.bound.contains name with
  | false => rfl
  | true =>
      obtain ⟨hne, hdecl⟩ :=
        Surface.isBindable_iff.1 (h.isBindable_of_bound hc)
      rcases hname with hn | hn
      · exact absurd hn hne
      · rw [hn] at hdecl
        cases hdecl

/-- An attribute is not declared, and not the list of items. -/
theorem undeclared_of_attr (h : i.Views p) {name : String}
    (ha : i.attrs.contains name = true) :
    name ≠ dataName
      ∧ i.definition.surface.properties.contains name = false := by
  have hkeep := OrdMap.contains_filter
    i.definition.surface.isForeign p name
  rw [h.attrs] at ha
  rw [Bool.eq_iff_iff, Bool.and_eq_true] at hkeep
  exact Surface.isForeign_iff.1 (hkeep.1 ha).1

/-- The list of items and declared names are never attributes. -/
theorem not_attr (h : i.Views p) {name : String}
    (hname : name = dataName
      ∨ i.definition.surface.properties.contains name = true) :
    i.attrs.contains name = false := by
  cases hc : i.attrs.contains name with
  | false => rfl
  | true =>
      obtain ⟨hne, hdecl⟩ := h.undeclared_of_attr hc
      rcases hname with hn | hn
      · exact absurd hn hne
      · rw [hn] at hdecl
        cases hdecl

/-- Unbinding a property that is bound removes it from the map. -/
theorem unset (h : i.Views p) {name : String}
    (hb : i.bound.contains name = true) :
    (i.unsetProp name).2.Views (p.erase name) := by
  obtain ⟨hname, hdecl⟩ :=
    Surface.isBindable_iff.1 (h.isBindable_of_bound hb)
  refine ⟨?_, ?_, ?_⟩
  · show i.bound.erase name = _
    rw [h.bound]
    exact (OrdMap.filter_erase _ p name).symm
  · -- a bound name is no attribute, so the attributes do not lose it
    have hno := h.not_attr (.inr hdecl)
    rw [h.attrs] at hno
    show i.attrs = (p.erase name).filter _
    rw [h.attrs, ← OrdMap.erase_of_not_contains hno]
    exact (OrdMap.filter_erase i.definition.surface.isForeign p name).symm
  · have hd := h.data
    unfold passedItems at hd ⊢
    rw [OrdMap.get?_erase_other p hname]
    exact hd

theorem unset_absent {name : String}
    (hb : i.bound.contains name = false) : (i.unsetProp name).2 = i := by
  unfold unsetProp
  rw [OrdMap.erase_of_not_contains hb]

end Views

end Instance

-- =========================================================== simulation

namespace Instance.Views

variable {i : Instance} {p : Props}

/-- Only the parts of an instance and its surface matter for the map
that it shows. -/
theorem congr (h : i.Views p) {j : Instance}
    (hd : j.definition = i.definition) (hb : j.bound = i.bound)
    (ha : j.attrs = i.attrs) (hi : j.data = i.data) : j.Views p := by
  refine ⟨?_, ?_, ?_⟩
  · rw [hb, hd]
    exact h.bound
  · rw [ha, hd]
    exact h.attrs
  · rw [hi]
    exact h.data

/-- Several writes that the surface takes go into the map in order. -/
theorem writeAll (ws : List (String × Value)) :
    ∀ {i : Instance} {p : Props}, i.Views p →
      (∀ w ∈ ws, i.definition.surface.takes w.1 w.2 = true) →
      (ws.foldl Instance.write i).Views
        (Edit.applyAll p (ws.map fun w => .insert w.1 w.2)) := by
  induction ws with
  | nil => intro i p h _; exact h
  | cons w rest ih =>
      intro i p h htakes
      refine ih (h.write (htakes w List.mem_cons_self)) fun x hx => ?_
      rw [write_definition]
      exact htakes x (List.mem_cons_of_mem w hx)

end Instance.Views

namespace Moment

/-- After a move the instance shows the map with the changes that the
move amounts to. -/
theorem views_after (m : Moment) {p : Props} (h : m.self.Views p)
    (move : Move) :
    (m.after move).self.Views (Edit.applyAll p (m.edits move)) := by
  cases move with
  | renderPass =>
      obtain ⟨hd, hb, ha, hi⟩ := m.self.renderPass_keeps m.around
      exact h.congr hd hb ha hi
  | takeEvents => exact h.congr rfl rfl rfl rfl
  | elsewhere around => exact h
  | syncBindings =>
      have hself := (m.self.syncBindings_eq m.around).2
      have hwrites : ∀ w ∈ m.self.emitter.queue.filterMap
          m.self.definition.surface.binding?,
          m.self.definition.surface.takes w.1 w.2 = true := by
        intro w hw
        obtain ⟨e, -, he⟩ := List.mem_filterMap.1 hw
        exact Surface.takes_of_binding? he
      show (m.self.syncBindings m.around).2.1.Views _
      rw [hself]
      exact (Instance.Views.writeAll _ h hwrites).congr rfl rfl rfl rfl
  | setProp name v =>
      simp only [Moment.after, edits]
      cases hb : m.self.definition.surface.isBindable name with
      | true =>
          rw [Instance.setProp_of_bindable v hb]
          exact h.write_bound v hb
      | false =>
          simp only [Instance.setProp, hb]
          exact h
  | unsetProp name =>
      simp only [Moment.after, edits]
      cases hb : m.self.bound.contains name with
      | true => exact h.unset hb
      | false =>
          rw [Instance.Views.unset_absent hb]
          exact h
  | setData data => exact h.write_data (itemsOfValue_itemsToValue data)
  | setDataValue v =>
      simp only [Moment.after, edits, Instance.setDataValue]
      cases hv : itemsOfValue v with
      | ok data => exact h.write_data hv
      | error e => exact h

/-- After a run the instance shows the map with all changes of the run,
in order. -/
theorem views_finish (moves : List Move) :
    ∀ {m : Moment} {p : Props}, m.self.Views p →
      (m.finish moves).self.Views
        (Edit.applyAll p (m.editsOf moves)) := by
  induction moves with
  | nil => intro m p h; exact h
  | cons move rest ih =>
      intro m p h
      have hsplit : m.editsOf (move :: rest)
          = m.edits move ++ (m.after move).editsOf rest := rfl
      rw [hsplit]
      unfold Edit.applyAll
      rw [List.foldl_append]
      exact ih (m.views_after h move)

/-- Instances of one definition that show one map, read the same globals
and have equally many events waiting render the same. -/
theorem renderPass_of_views {m n : Moment} {p : Props}
    (hm : m.self.Views p) (hn : n.self.Views p)
    (hdef : m.self.definition = n.self.definition)
    (hdecl : m.self.emitter.declared = n.self.emitter.declared)
    (hglobals : m.globals = n.globals)
    (hwait : m.self.emitter.pending = n.self.emitter.pending) :
    (m.self.renderPass m.around).1.anonymous
      = (n.self.renderPass n.around).1.anonymous := by
  have hbound : m.self.bound = n.self.bound := by
    rw [hm.bound, hn.bound, hdef]
  have hattrs : m.self.attrs = n.self.attrs := by
    rw [hm.attrs, hn.attrs, hdef]
  have hdata : m.self.data = n.self.data := by
    have h := hm.data.symm.trans hn.data
    injection h
  have halike : Pass.Alike
      (.start (m.self.readGlobals m.around) m.self.emitter)
      (.start (n.self.readGlobals n.around) n.self.emitter) :=
    ⟨hglobals, hdecl, hwait⟩
  obtain ⟨hnodes, hunmatched⟩ := halike.renderFrom
    n.self.definition.registry n.self.bound n.self.attrs n.self.data 0
  rw [Instance.anonymous_renderPass, Instance.anonymous_renderPass,
    hdef, hbound, hattrs, hdata]
  unfold Pass.renderItems
  simp only [hnodes, hunmatched]

end Moment

-- ========================================================== main results

/-- After any run from a mount, the instance shows the map that was
passed with the changes of the run made to it, key order included: what
is bound, the attributes and the list of items are those of a fresh
mount of the changed map. Only declared properties are ever bound, only
undeclared ones are attributes. Unbinding `data`, an attribute or an
unknown name, calls that fail, and the events that are handed over
change nothing. And two runs that end with the same map, the same
globals and equally many waiting events end in the same output. -/
theorem instance_views_edited_map {component : Nat} {d : Definition}
    {p : Props} {a b : Ambient} {i : Instance}
    (hmount : Instance.mount component d p a = (.ok i, b))
    (moves : List Move) :
    let start : Moment := ⟨i, b⟩
    let m := start.finish moves
    let q := Edit.applyAll p (start.editsOf moves)
    (∀ around, ∃ j after,
      Instance.mount component d q around = (.ok j, after)
        ∧ m.self.bound = j.bound ∧ m.self.attrs = j.attrs
        ∧ m.self.data = j.data)
    ∧ (∀ name, m.self.bound.contains name = true →
        name ≠ dataName ∧ d.surface.properties.contains name = true)
    ∧ (∀ name, m.self.attrs.contains name = true →
        name ≠ dataName ∧ d.surface.properties.contains name = false)
    ∧ (∀ name, name = dataName
          ∨ d.surface.properties.contains name = false →
        m.edits (.unsetProp name) = [] ∧ m.after (.unsetProp name) = m)
    ∧ (∀ name v e, (m.self.setProp name v).1 = .error e →
        m.edits (.setProp name v) = [] ∧ m.after (.setProp name v) = m)
    ∧ (∀ v e, (m.self.setDataValue v).1 = .error e →
        m.edits (.setDataValue v) = [] ∧ m.after (.setDataValue v) = m)
    ∧ m.returned .syncBindings
        = (m.self.emitter.queue.filter fun e =>
            (d.surface.binding? e).isNone)
    ∧ ∀ (p' : Props) (a' b' : Ambient) (i' : Instance)
        (moves' : List Move),
        Instance.mount component d p' a' = (.ok i', b') →
        let start' : Moment := ⟨i', b'⟩
        let m' := start'.finish moves'
        Edit.applyAll p' (start'.editsOf moves') = q →
        m'.globals = m.globals →
        m'.self.emitter.pending = m.self.emitter.pending →
        (m'.self.renderPass m'.around).1.anonymous
          = (m.self.renderPass m.around).1.anonymous := by
  intro start m q
  -- what the run keeps, for any mount of the component
  have hrun : ∀ {p' : Props} {a' b' : Ambient} {i' : Instance},
      Instance.mount component d p' a' = (.ok i', b') →
      ∀ moves' : List Move,
        let m' := Moment.finish ⟨i', b'⟩ moves'
        m'.self.Views (Edit.applyAll p' (Moment.editsOf ⟨i', b'⟩ moves'))
          ∧ m'.self.definition = d
          ∧ m'.self.emitter.declared = d.surface.emits := by
    intro p' a' b' i' h moves'
    obtain ⟨data, hdata, rfl, -⟩ := Instance.mount_inv h
    obtain ⟨-, hd, he⟩ := Moment.steps_keep
      ⟨Instance.mounted component d p' data, b'⟩ moves'
    exact ⟨Moment.views_finish moves'
      (Instance.views_mounted component d hdata), hd, he⟩
  obtain ⟨hviews, hdef, hdecl⟩ := hrun hmount moves
  refine ⟨?_, ?_, ?_, ?_, ?_, ?_, ?_, ?_⟩
  · intro around
    obtain ⟨hj, -⟩ :=
      Instance.mount_of_items component d hviews.data around
    refine ⟨_, _, Prod.ext hj rfl, ?_, ?_, rfl⟩
    · rw [hviews.bound, hdef]
      rfl
    · rw [hviews.attrs, hdef]
      rfl
  · intro name hb
    have h := Surface.isBindable_iff.1 (hviews.isBindable_of_bound hb)
    rwa [hdef] at h
  · intro name ha
    have h := hviews.undeclared_of_attr ha
    rwa [hdef] at h
  · intro name hname
    have hb : m.self.bound.contains name = false := by
      refine hviews.not_bound ?_
      rwa [hdef]
    constructor
    · simp only [Moment.edits, hb]
      rfl
    · simp only [Moment.after, Instance.Views.unset_absent hb]
  · intro name v e he
    constructor
    · simp only [Moment.edits, he]
    · simp only [Moment.after, Instance.setProp_error he]
  · intro v e he
    constructor
    · simp only [Moment.edits, he]
    · simp only [Moment.after, Instance.setDataValue_error he]
  · rw [← hdef]
    exact (m.self.syncBindings_eq m.around).1
  · intro p' a' b' i' moves' hmount' start' m' hq hglobals hwait
    obtain ⟨hviews', hdef', hdecl'⟩ := hrun hmount' moves'
    rw [hq] at hviews'
    exact Moment.renderPass_of_views hviews' hviews
      (hdef'.trans hdef.symm) (hdecl'.trans hdecl.symm) hglobals hwait

/-- A size bound later shows, and renders, as one that was passed. -/
theorem gauge_views_edited_map :
    Instance.mount 0 gauge (gaugeProps 1) .start
        = (.ok (gaugeMoment 1).self, .start)
      ∧ (∃ j after, Instance.mount 0 gauge (gaugeProps 2) .start
          = (.ok j, after)
          ∧ ((gaugeMoment 1).finish [.setProp "size" (.int 2)]).self.bound
            = j.bound)
      ∧ ((gaugeMoment 2).self.renderPass .start).1.anonymous
        = (((gaugeMoment 1).finish
            [.setProp "size" (.int 2)]).self.renderPass
              .start).1.anonymous := by
  have hmount : ∀ size, Instance.mount 0 gauge (gaugeProps size) .start
      = (.ok (gaugeMoment size).self, .start) := fun _ => rfl
  obtain ⟨hfresh, -, -, -, -, -, -, hsame⟩ :=
    instance_views_edited_map (hmount 1) [.setProp "size" (.int 2)]
  obtain ⟨j, after, hj, hbound, -, -⟩ := hfresh .start
  refine ⟨hmount 1, ⟨j, after, hj, hbound⟩, ?_⟩
  exact hsame (gaugeProps 2) .start .start _ [] (hmount 2) rfl rfl rfl

/-- The same map and the same globals do not make the same output: a
render function can write down how many events wait, and a pass that
emits changes that number. -/
theorem output_counts_waiting :
    ¬ ∀ (component : Nat) (d : Definition) (p p' : Props)
        (a a' b b' : Ambient) (i i' : Instance)
        (moves moves' : List Move),
        Instance.mount component d p a = (.ok i, b) →
        Instance.mount component d p' a' = (.ok i', b') →
        let m := Moment.finish ⟨i, b⟩ moves
        let m' := Moment.finish ⟨i', b'⟩ moves'
        Edit.applyAll p (Moment.editsOf ⟨i, b⟩ moves)
          = Edit.applyAll p' (Moment.editsOf ⟨i', b'⟩ moves') →
        m.globals = m'.globals →
        (m.self.renderPass m.around).1.anonymous
          = (m'.self.renderPass m'.around).1.anonymous := by
  intro h
  have hsame := h 0 gauge (gaugeProps 1) (gaugeProps 1) .start .start
    .start .start (gaugeMoment 1).self (gaugeMoment 1).self [.renderPass] []
    rfl rfl rfl rfl
  have htext := congrArg (fun out => out.node.textContent) hsame
  exact absurd htext (by decide)

end RuledList
