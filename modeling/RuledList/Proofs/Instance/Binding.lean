/-
Binding from outside. A surface takes a value under a name when the name
is `data` and the value spells a list of items, or when the name is that
of another declared property. Writing a taken value (`Instance.write`)
is the one thing that `setProp`, `setDataValue` and the events of
`syncBindings` have in common.

Draining the events is a series of such writes. Every event either asks
for a write that the surface takes, and then the write is made, or it is
handed over; `syncBindings_eq` says that of the queue as a whole.
-/
import RuledList.Instance.Bindings

namespace RuledList

namespace Surface

/-- Whether a value can be written under a name from outside: a list of
items under `data`, anything under another declared property. -/
def takes (s : Surface) (name : String) (v : Value) : Bool :=
  if name = dataName then (itemsOfValue v).isOk
  else s.properties.contains name

/-- The write that an event asks for, if the surface takes it. -/
def binding? (s : Surface) (e : Event) : Option (String × Value) :=
  e.boundProperty?.bind fun name =>
    if s.takes name e.payload then some (name, e.payload) else none

/-- Whether a name is left to the attributes. -/
def isForeign (s : Surface) (name : String) : Bool :=
  name != dataName && !s.properties.contains name

theorem isBindable_iff {s : Surface} {name : String} :
    s.isBindable name = true
      ↔ name ≠ dataName ∧ s.properties.contains name = true := by
  unfold isBindable
  rw [Bool.and_eq_true, bne_iff_ne]

theorem isForeign_iff {s : Surface} {name : String} :
    s.isForeign name = true
      ↔ name ≠ dataName ∧ s.properties.contains name = false := by
  unfold isForeign
  rw [Bool.and_eq_true, bne_iff_ne, Bool.not_eq_true']

/-- A declared property other than the list of items takes anything. -/
theorem isBindable_of_takes {s : Surface} {name : String} {v : Value}
    (hname : name ≠ dataName) (h : s.takes name v = true) :
    s.isBindable name = true := by
  unfold takes at h
  rw [if_neg hname] at h
  exact isBindable_iff.2 ⟨hname, h⟩

theorem isBindable_dataName (s : Surface) :
    s.isBindable dataName = false := by
  unfold isBindable
  rw [bne_self_eq_false, Bool.false_and]

theorem isForeign_dataName (s : Surface) :
    s.isForeign dataName = false := by
  unfold isForeign
  rw [bne_self_eq_false, Bool.false_and]

theorem isForeign_of_bindable {s : Surface} {name : String}
    (h : s.isBindable name = true) : s.isForeign name = false := by
  unfold isForeign
  rw [(isBindable_iff.1 h).2, Bool.not_true, Bool.and_false]

/-- The surface takes what an event asks it to take. -/
theorem takes_of_binding? {s : Surface} {e : Event} {w : String × Value}
    (h : s.binding? e = some w) : s.takes w.1 w.2 = true := by
  unfold binding? at h
  cases hp : e.boundProperty? with
  | none => rw [hp] at h; cases h
  | some name =>
      rw [hp, Option.bind_some] at h
      split at h
      case isFalse => cases h
      case isTrue htakes =>
        injection h with hw
        subst hw
        exact htakes

end Surface

-- =============================================================== writing

namespace Instance

/-- Write a value under a name, by whichever operation is for it. -/
def write (i : Instance) (w : String × Value) : Instance :=
  if w.1 = dataName then (i.setDataValue w.2).2
  else (i.setProp w.1 w.2).2

/-- A list of items that a value spells replaces the one there is. -/
theorem setDataValue_of_takes {i : Instance} {s : Surface} {v : Value}
    (h : s.takes dataName v = true) :
    ∃ data, itemsOfValue v = .ok data
      ∧ i.setDataValue v = (.ok (), { i with data }) := by
  unfold Surface.takes at h
  rw [if_pos rfl] at h
  unfold setDataValue
  cases hv : itemsOfValue v with
  | error e => rw [hv] at h; cases h
  | ok data => exact ⟨data, rfl, rfl⟩

theorem setProp_of_bindable {i : Instance} {name : String} (v : Value)
    (h : i.definition.surface.isBindable name = true) :
    i.setProp name v
      = (.ok (), { i with bound := i.bound.insert name v }) := by
  unfold setProp
  rw [if_pos h]

theorem setProp_error {i : Instance} {name : String} {v : Value}
    {e : BindingError} (h : (i.setProp name v).1 = .error e) :
    (i.setProp name v).2 = i := by
  unfold setProp at h ⊢
  by_cases hb : i.definition.surface.isBindable name = true
  · rw [if_pos hb] at h
    cases h
  · rw [if_neg hb]

theorem setDataValue_error {i : Instance} {v : Value} {e : BindingError}
    (h : (i.setDataValue v).1 = .error e) : (i.setDataValue v).2 = i := by
  unfold setDataValue at h ⊢
  cases hv : itemsOfValue v with
  | ok data => rw [hv] at h; cases h
  | error _ => rfl

/-- A write changes what is bound or the list of items, and nothing
else. -/
theorem write_keeps (i : Instance) (w : String × Value) :
    i.write w
      = { i with bound := (i.write w).bound, data := (i.write w).data } := by
  unfold write setDataValue setProp
  by_cases hd : w.1 = dataName
  · rw [if_pos hd]
    cases itemsOfValue w.2 <;> rfl
  · rw [if_neg hd]
    by_cases hb : i.definition.surface.isBindable w.1 = true
    · rw [if_pos hb]
    · rw [if_neg hb]

theorem write_definition (i : Instance) (w : String × Value) :
    (i.write w).definition = i.definition := by
  rw [write_keeps]

end Instance

-- ============================================================== draining

namespace Sync

/-- An event whose write the surface takes is applied by that write. -/
theorem apply_taken {i : Instance} {e : Event} {w : String × Value}
    (h : i.definition.surface.binding? e = some w) (rest : List Event)
    (notices : List Notice) :
    apply i.definition.surface ⟨i.bound, i.data, rest, notices⟩ e
      = ⟨(i.write w).bound, (i.write w).data, rest, notices⟩ := by
  unfold Surface.binding? at h
  unfold apply
  cases hp : e.boundProperty? with
  | none => rw [hp] at h; cases h
  | some name =>
      rw [hp, Option.bind_some] at h
      split at h
      case isFalse => cases h
      case isTrue htakes =>
        injection h with hw
        subst hw
        unfold Instance.write
        by_cases hd : name = dataName
        · subst hd
          obtain ⟨data, hdata, hset⟩ :=
            Instance.setDataValue_of_takes (i := i) htakes
          rw [if_pos rfl, hset]
          simp only [↓reduceIte, hdata]
        · have hb := Surface.isBindable_of_takes hd htakes
          have hc := (Surface.isBindable_iff.1 hb).2
          rw [if_neg hd, Instance.setProp_of_bindable e.payload hb]
          simp only [hd, hc, ↓reduceIte]

/-- Any other event is left to the listener. -/
theorem apply_left {s : Surface} {e : Event} (h : s.binding? e = none)
    (bound : Props) (data : List Props) (rest : List Event)
    (notices : List Notice) :
    ∃ notices', apply s ⟨bound, data, rest, notices⟩ e
      = ⟨bound, data, rest ++ [e], notices'⟩ := by
  unfold Surface.binding? at h
  unfold apply
  cases hp : e.boundProperty? with
  | none => exact ⟨notices, rfl⟩
  | some name =>
      rw [hp, Option.bind_some] at h
      split at h
      case isTrue => cases h
      case isFalse htakes =>
        unfold Surface.takes at htakes
        by_cases hd : name = dataName
        · rw [if_pos hd] at htakes
          cases hv : itemsOfValue e.payload with
          | ok data' => rw [hv] at htakes; exact absurd rfl htakes
          | error err =>
              simp only [hd, ↓reduceIte]
              exact ⟨_, rfl⟩
        · rw [if_neg hd] at htakes
          simp only [hd, htakes, ↓reduceIte]
          exact ⟨notices, rfl⟩

/-- Applying events makes the writes that are taken and leaves the other
events, both in order. -/
theorem foldl_apply (events : List Event) :
    ∀ (i : Instance) (rest : List Event) (notices : List Notice),
      let s := i.definition.surface
      let out := events.foldl (apply s) ⟨i.bound, i.data, rest, notices⟩
      let j := (events.filterMap s.binding?).foldl Instance.write i
      j = { i with bound := out.bound, data := out.data }
        ∧ out.rest
          = rest ++ events.filter fun e => (s.binding? e).isNone := by
  induction events with
  | nil =>
      intro i rest notices
      exact ⟨rfl, (List.append_nil rest).symm⟩
  | cons e es ih =>
      intro i rest notices
      simp only [List.foldl_cons]
      cases hb : i.definition.surface.binding? e with
      | none =>
          obtain ⟨notices', hs⟩ :=
            apply_left hb i.bound i.data rest notices
          obtain ⟨hj, hrest⟩ := ih i (rest ++ [e]) notices'
          rw [hs, List.filterMap_cons_none hb]
          refine ⟨hj, hrest.trans ?_⟩
          rw [List.filter_cons_of_pos (by rw [hb]; rfl), List.append_assoc,
            List.singleton_append]
      | some w =>
          obtain ⟨hj, hrest⟩ := ih (i.write w) rest notices
          rw [Instance.write_definition] at hj hrest
          rw [apply_taken hb, List.filterMap_cons_some hb,
            List.foldl_cons, List.filter_cons_of_neg (by rw [hb]; simp)]
          refine ⟨hj.trans ?_, hrest⟩
          rw [Instance.write_keeps i w]

end Sync

/-- Draining the events of an instance: the taken writes are made in
order, the queue is empty, and the other events are handed over in
order. -/
theorem Instance.syncBindings_eq (i : Instance) (a : Ambient) :
    let s := i.definition.surface
    let events := i.emitter.queue
    (i.syncBindings a).1
        = events.filter (fun e => (s.binding? e).isNone)
      ∧ (i.syncBindings a).2.1
        = { (events.filterMap s.binding?).foldl write i with
            emitter := { i.emitter with queue := [] } } := by
  obtain ⟨hj, hrest⟩ := Sync.foldl_apply i.emitter.queue i [] []
  refine ⟨hrest, ?_⟩
  rw [hj]
  rfl

end RuledList
