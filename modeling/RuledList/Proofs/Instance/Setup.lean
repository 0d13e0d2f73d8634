/-
Setting up an instance. What is passed is gone through entry by entry:
the list of items is read, a declared property is bound, and anything
else becomes an attribute. A walk like this could depend on where `data`
stands, or write the entries of one part in another order than they were
passed. It does neither (`Sorting.walk_eq`): names in what is passed do
not repeat, so each entry is written once, behind those before it.

Nothing is lost on the way in. The items are read from a value and can be
spelled as one again, and that is the value that was passed, unless an
object in it repeats a name (`itemsToValue_of_items`). So a setup hook,
which is handed what is bound and the items spelled again, sees them as
they were passed.
-/
import RuledList.Proofs.Component.Surface
import RuledList.Proofs.Instance.FlatMap
import RuledList.Proofs.Instance.Items
import RuledList.Proofs.Value.Equality

namespace RuledList

-- ================================================================ places

namespace Surface

/-- Every name is the list of items, can be bound, or is left to the
attributes. -/
theorem place (s : Surface) (name : String) :
    name = dataName ∨ s.isBindable name = true
      ∨ s.isForeign name = true := by
  by_cases hdata : name = dataName
  · exact .inl hdata
  · cases hdeclared : s.properties.contains name with
    | true => exact .inr (.inl (isBindable_iff.2 ⟨hdata, hdeclared⟩))
    | false => exact .inr (.inr (isForeign_iff.2 ⟨hdata, hdeclared⟩))

theorem not_isBindable_of_foreign {s : Surface} {name : String}
    (h : s.isForeign name = true) : s.isBindable name = false := by
  unfold isBindable
  rw [(isForeign_iff.1 h).2, Bool.and_false]

end Surface

-- ============================================================== the walk

/-- The parts of what is passed, as far as it has been gone through. -/
structure Sorting where
  bound : Props
  attrs : Props
  data : List Props

namespace Sorting

/-- Nothing has been gone through. -/
def start : Sorting := ⟨OrdMap.empty, OrdMap.empty, []⟩

/-- Put an entry into its part. -/
def add (s : Surface) (x : Sorting) (e : String × Value) :
    Except BindingError Sorting :=
  if e.1 = dataName then
    (itemsOfValue e.2).map fun data => { x with data }
  else if s.properties.contains e.1 then
    .ok { x with bound := x.bound.insert e.1 e.2 }
  else .ok { x with attrs := x.attrs.insert e.1 e.2 }

/-- Go through what is passed, in order. -/
def walk (s : Surface) (passed : Props) : Except BindingError Sorting :=
  passed.entries.foldlM (add s) start

section Add

variable {s : Surface} {name : String} (x : Sorting) (v : Value)

theorem add_bindable (h : s.isBindable name = true) :
    add s x (name, v) = .ok { x with bound := x.bound.insert name v } := by
  obtain ⟨hdata, hdeclared⟩ := Surface.isBindable_iff.1 h
  unfold add
  rw [if_neg hdata, if_pos hdeclared]

theorem add_foreign (h : s.isForeign name = true) :
    add s x (name, v) = .ok { x with attrs := x.attrs.insert name v } := by
  obtain ⟨hdata, hundeclared⟩ := Surface.isForeign_iff.1 h
  unfold add
  rw [if_neg hdata, if_neg (by rw [hundeclared]; exact Bool.false_ne_true)]

end Add

/-- The list of items that entries bring, or else the one there is. -/
def itemsAmong (entries : List (String × Value)) (data : List Props) :
    Except BindingError (List Props) :=
  match findEntry dataName entries with
  | none => .ok data
  | some v => itemsOfValue v

theorem itemsAmong_cons {name : String} {v : Value}
    {rest : List (String × Value)} {data : List Props}
    (h : name ≠ dataName) :
    itemsAmong ((name, v) :: rest) data = itemsAmong rest data := by
  unfold itemsAmong
  rw [findEntry, if_neg h]

/-- What is left to go through is written behind what is there, each part
by itself, and `data` is read where it stands. -/
theorem foldlM_add (s : Surface) (rest : List (String × Value))
    (hnodup : (entryNames rest).Nodup) : ∀ x : Sorting,
    rest.foldlM (add s) x
      = (itemsAmong rest x.data).map fun data =>
        ⟨x.bound.insertAll (rest.filter fun e => s.isBindable e.1),
          x.attrs.insertAll (rest.filter fun e => s.isForeign e.1),
          data⟩ := by
  induction rest with
  | nil => intro x; rfl
  | cons e rest ih =>
      intro x
      obtain ⟨name, v⟩ := e
      obtain ⟨hhead, hrest⟩ := List.nodup_cons.1 hnodup
      rw [List.foldlM_cons]
      rcases s.place name with hdata | hb | hf
      · subst hdata
        have hbound : s.isBindable dataName = false :=
          s.isBindable_dataName
        have hattrs : s.isForeign dataName = false := s.isForeign_dataName
        have hitems : itemsAmong ((dataName, v) :: rest) x.data
            = itemsOfValue v := by
          unfold itemsAmong findEntry
          rw [if_pos rfl]
        -- `data` stands here, so it does not come again
        have hlater : ∀ data, itemsAmong rest data = .ok data := by
          intro data
          unfold itemsAmong
          rw [(findEntry_eq_none_iff _ _).2 hhead]
        rw [hitems, List.filter_cons_of_neg (by simp [hbound]),
          List.filter_cons_of_neg (by simp [hattrs]), add, if_pos rfl]
        cases itemsOfValue v with
        | error e => rfl
        | ok data =>
            show rest.foldlM (add s) { x with data } = _
            rw [ih hrest, hlater]
      · have hf : s.isForeign name = false :=
          Surface.isForeign_of_bindable hb
        rw [itemsAmong_cons (Surface.isBindable_iff.1 hb).1,
          List.filter_cons_of_pos (by simp [hb]),
          List.filter_cons_of_neg (by simp [hf]), add_bindable x v hb]
        exact ih hrest { x with bound := x.bound.insert name v }
      · have hb : s.isBindable name = false :=
          Surface.not_isBindable_of_foreign hf
        rw [itemsAmong_cons (Surface.isForeign_iff.1 hf).1,
          List.filter_cons_of_neg (by simp [hb]),
          List.filter_cons_of_pos (by simp [hf]), add_foreign x v hf]
        exact ih hrest { x with attrs := x.attrs.insert name v }

/-- Going through what is passed gives the parts that mounting makes of
it, or fails as mounting does. -/
theorem walk_eq (s : Surface) (passed : Props) :
    walk s passed = (passedItems passed).map fun data =>
      ⟨Instance.boundOf s passed, Instance.attrsOf s passed, data⟩ := by
  have hparts : ∀ keep : String → Bool,
      OrdMap.empty.insertAll (passed.entries.filter fun e => keep e.1)
        = passed.filter fun name _ => keep name := fun keep =>
    OrdMap.ofList_entries (passed.filter fun name _ => keep name)
  have hitems : itemsAmong passed.entries [] = passedItems passed := by
    unfold itemsAmong passedItems OrdMap.get?
    cases findEntry dataName passed.entries <;> rfl
  unfold walk
  rw [foldlM_add s _ passed.nodup, start, hparts, hparts, hitems]
  rfl

end Sorting

-- ========================================================= items as values

/-- Items that are read from a tidy value spell that value. -/
theorem itemsToValue_of_items {v : Value} {data : List Props}
    (h : itemsOfValue v = .ok data) (htidy : v.Tidy) :
    itemsToValue data = v := by
  cases itemsOfValue_eq_ok_iff.1 h with
  | objects fieldss =>
      have hfields : ∀ fields ∈ fieldss,
          Props.toValue (OrdMap.ofList fields) = .object fields := by
        intro fields hin
        obtain ⟨hnodup, -⟩ : (Value.object fields).Tidy :=
          Value.tidyItems_iff.1 htidy _ (List.mem_map_of_mem hin)
        exact congrArg Value.object (OrdMap.entries_ofList hnodup)
      unfold itemsToValue
      rw [List.map_map]
      exact congrArg Value.array (List.map_congr_left hfields)

/-- What is passed as the list of items, which is empty if it is not
passed. -/
def Props.passedData (passed : Props) : Value :=
  (passed.get? dataName).getD (.array [])

theorem itemsOfValue_passedData (passed : Props) :
    itemsOfValue passed.passedData = passedItems passed := by
  unfold Props.passedData passedItems
  cases passed.get? dataName <;> rfl

-- ============================================================== the parts

namespace Instance

section Parts

variable {s : Surface} {passed : Props}

theorem get?_boundOf (name : String) :
    (boundOf s passed).get? name
      = if s.isBindable name then passed.get? name else none :=
  OrdMap.get?_filter s.isBindable passed name

theorem get?_attrsOf (name : String) :
    (attrsOf s passed).get? name
      = if s.isForeign name then passed.get? name else none :=
  OrdMap.get?_filter s.isForeign passed name

/-- Where `data` is declared, as it always is, what is not declared is not
the list of items. -/
theorem entries_attrsOf (h : s.properties.contains dataName = true) :
    (attrsOf s passed).entries
      = passed.entries.filter fun e => !s.properties.contains e.1 := by
  refine List.filter_congr fun e _ => ?_
  show s.isForeign e.1 = _
  by_cases hname : e.1 = dataName
  · rw [hname, h, s.isForeign_dataName]
    rfl
  · unfold Surface.isForeign
    rw [bne_iff_ne.2 hname, Bool.true_and]

/-- The list of items is written behind what is bound. -/
theorem entries_insert_boundOf (v : Value) :
    ((boundOf s passed).insert dataName v).entries
      = (boundOf s passed).entries ++ [(dataName, v)] := by
  refine putEntry_of_not_mem v fun hin => ?_
  obtain ⟨hb, -⟩ := (mem_entryNames_filter _).1 hin
  rw [s.isBindable_dataName] at hb
  cases hb

end Parts

/-- Where a passed entry ends: as the list of items, among what is bound,
or among the attributes, and in no other of these. -/
inductive Placed (i : Instance) (name : String) (v : Value) : Prop where
  | items (hname : name = dataName) (hitems : itemsToValue i.data = v)
      (hbound : i.bound.get? name = none)
      (hattrs : i.attrs.get? name = none)
  | bound (hname : name ≠ dataName) (hbound : i.bound.get? name = some v)
      (hattrs : i.attrs.get? name = none)
  | attrs (hname : name ≠ dataName) (hbound : i.bound.get? name = none)
      (hattrs : i.attrs.get? name = some v)

/-- Every entry of a map that an instance shows is placed in it. -/
theorem Views.placed {i : Instance} {p : Props} (h : i.Views p)
    (hitems : itemsToValue i.data = p.passedData)
    {e : String × Value} (he : e ∈ p.entries) : i.Placed e.1 e.2 := by
  have hget : p.get? e.1 = some e.2 := OrdMap.get?_eq_some_iff.2 he
  have hbound : i.bound.get? e.1
      = if i.definition.surface.isBindable e.1 then some e.2 else none := by
    rw [h.bound, get?_boundOf, hget]
  have hattrs : i.attrs.get? e.1
      = if i.definition.surface.isForeign e.1 then some e.2 else none := by
    rw [h.attrs, get?_attrsOf, hget]
  rcases i.definition.surface.place e.1 with hname | hb | hf
  · rw [hname, Surface.isBindable_dataName] at hbound
    rw [hname, Surface.isForeign_dataName] at hattrs
    rw [Props.passedData, ← hname, hget] at hitems
    exact .items hname hitems (hname ▸ hbound) (hname ▸ hattrs)
  · rw [if_pos hb] at hbound
    rw [Surface.isForeign_of_bindable hb] at hattrs
    exact .bound (Surface.isBindable_iff.1 hb).1 hbound hattrs
  · rw [Surface.not_isBindable_of_foreign hf] at hbound
    rw [if_pos hf] at hattrs
    exact .attrs (Surface.isForeign_iff.1 hf).1 hbound hattrs

-- ============================================================ setting up

section SetUp

variable {d : Definition} (bound attrs : Props) (data : List Props)
  (a : Ambient)

theorem setUp_bare (hscope : d.scope = .perInstance)
    (hsetup : d.config.setup? = none) :
    setUp d bound attrs data a = (.own Globals.fresh, a) := by
  unfold setUp
  rw [hscope, hsetup]

/-- A hook is run one time, and what it leaves is all that changes. -/
theorem setUp_hook (hscope : d.scope = .perInstance) {hook : SetupHook}
    (hsetup : d.config.setup? = some hook) :
    let out := hook (bound.insert dataName (itemsToValue data)) attrs
      Globals.fresh
    setUp d bound attrs data a
      = (.own out.globals, (a.tell .setupRuns).observe out.observed) := by
  unfold setUp
  rw [hscope, hsetup]

theorem setUp_shared {cell : Nat} (hscope : d.scope = .shared cell) :
    setUp d bound attrs data a = (.shared cell, a) := by
  unfold setUp
  rw [hscope]

end SetUp

/-- The globals of an instance, and the surroundings after its mount, are
what setting it up makes of its parts. -/
theorem setUp_of_mount {component : Nat} {d : Definition}
    {passed : Props} {a b : Ambient} {i : Instance}
    (h : mount component d passed a = (.ok i, b)) :
    setUp d i.bound i.attrs i.data a = (i.globals, b) := by
  unfold mount at h
  cases hp : passedItems passed with
  | error e =>
      rw [hp] at h
      cases h
  | ok data =>
      rw [hp] at h
      cases h
      rfl

end Instance

-- ========================================================== main result

/-- Whatever mounts is split without loss, and set up once. Going through
what is passed, in its order and wherever `data` stands in it, gives the
parts of the instance: what is bound is what is passed of the surface
other than `data`, the attributes are what is passed beside the surface,
each in the order passed, and the items are those that `data` spells;
every entry ends in exactly one part, and the items spell the value that
was passed, in which no object repeats a name. No event waits, and the
component's events are those that can be emitted.

An instance that has its own globals starts with empty ones. If there is a
setup hook, it is run on them one time, on what is bound with the items
behind it and on the attributes, and leaves what the instance starts with.
If the globals are shared, nothing at all is run or changed. -/
theorem mounting_splits_and_sets_up_once {registry : Registry}
    {config : OutputConfig} {before a b : Ambient} {component : Nat}
    {passed : Props} {i : Instance}
    (hmount : Instance.mount component
      (Definition.ofRegistry registry config before).1 passed a
        = (.ok i, b))
    (htidy : passed.passedData.Tidy) :
    let d := (Definition.ofRegistry registry config before).1
    Sorting.walk d.surface passed = .ok ⟨i.bound, i.attrs, i.data⟩
    ∧ i.bound.entries = passed.entries.filter (fun e =>
        e.1 != dataName && d.surface.properties.contains e.1)
    ∧ i.attrs.entries = passed.entries.filter (fun e =>
        !d.surface.properties.contains e.1)
    ∧ itemsOfValue passed.passedData = .ok i.data
    ∧ itemsToValue i.data = passed.passedData
    ∧ (∀ e ∈ passed.entries, i.Placed e.1 e.2)
    ∧ i.emitter.queue = []
    ∧ (∀ event, i.emitter.isDeclared event = true
        ↔ event ∈ (Component.produced d).emits)
    ∧ (config.functional = false → config.setup? = none →
        i.globals = .own Globals.fresh ∧ b = a)
    ∧ (config.functional = false → ∀ hook, config.setup? = some hook →
        ∃ props : Props,
          props.entries
            = i.bound.entries ++ [(dataName, passed.passedData)]
          ∧ i.globals = .own (hook props i.attrs Globals.fresh).globals
          ∧ b = (a.tell .setupRuns).observe
              (hook props i.attrs Globals.fresh).observed)
    ∧ (config.functional = true →
        ∃ cell, d.scope = .shared cell ∧ i.globals = .shared cell
          ∧ b = a) := by
  intro d
  obtain ⟨data, hitems, rfl, -⟩ := Instance.mount_inv hmount
  have hread : itemsOfValue passed.passedData = .ok data :=
    (itemsOfValue_passedData passed).trans hitems
  have hspelled := itemsToValue_of_items hread htidy
  have hviews := Instance.views_mounted component d hitems
  have hreserved : d.surface.properties.contains dataName = true := by
    rw [Definition.surface_ofRegistry, Surface.contains_ofRules]
    exact .inl rfl
  have hmade := Definition.ofRegistry_eq registry config before
  have hconfig : d.config.setup? = config.setup? :=
    congrArg (fun d => d.config.setup?) hmade
  have hscope : d.scope = _ := congrArg Definition.scope hmade
  have hsetup := Instance.setUp_of_mount hmount
  refine ⟨?_, rfl, Instance.entries_attrsOf hreserved, hread, hspelled,
    fun e he => hviews.placed hspelled he, rfl,
    fun event => List.contains_iff_mem, ?_, ?_, ?_⟩
  · rw [Sorting.walk_eq, hitems]
    rfl
  · intro hown hnone
    rw [hown] at hscope
    rw [Instance.setUp_bare _ _ _ _ hscope (hconfig.trans hnone)] at hsetup
    obtain ⟨hglobals, hb⟩ := Prod.mk.inj hsetup
    exact ⟨hglobals.symm, hb.symm⟩
  · intro hown hook hhook
    rw [hown] at hscope
    rw [Instance.setUp_hook _ _ _ _ hscope (hconfig.trans hhook)] at hsetup
    obtain ⟨hglobals, hb⟩ := Prod.mk.inj hsetup
    refine ⟨_, ?_, hglobals.symm, hb.symm⟩
    rw [← hspelled]
    exact Instance.entries_insert_boundOf _
  · intro hshared
    rw [hshared] at hscope
    rw [Instance.setUp_shared _ _ _ _ hscope] at hsetup
    obtain ⟨hglobals, hb⟩ := Prod.mk.inj hsetup
    exact ⟨_, hscope, hglobals.symm, hb.symm⟩

/-- A configuration whose setup hook copies what it is shown. -/
def copyingConfig : OutputConfig :=
  { OutputConfig.standard with setup? := some fun props _ _ => ⟨props, []⟩ }

/-- A class, one item, and a size. -/
def classedGaugeProps : Props :=
  ((OrdMap.empty.insert "class" (.string "x")).insert "data"
    (.array [.object [("a", .bool true)]])).insert "size" (.int 1)

/-- A gauge that is set up shows its hook the size and then the item, and
keeps the class for itself. -/
theorem classed_gauge_is_set_up :
    let d := (Definition.ofRegistry ⟨[gaugeRule]⟩ copyingConfig .start).1
    let i := Instance.mounted 0 d classedGaugeProps
      [OrdMap.empty.insert "a" (.bool true)]
    Instance.mount 0 d classedGaugeProps .start
        = (.ok i, Ambient.start.tell .setupRuns)
      ∧ classedGaugeProps.passedData.Tidy
      ∧ i.attrs.entries = [("class", .string "x")]
      ∧ ∃ g : Globals, i.globals = .own g
        ∧ g.entries = [("size", .int 1),
          ("data", .array [.object [("a", .bool true)]])] := by
  intro d i
  have hmount : Instance.mount 0 d classedGaugeProps .start
      = (.ok i, Ambient.start.tell .setupRuns) := rfl
  have htidy : classedGaugeProps.passedData.Tidy :=
    ⟨⟨by decide, trivial, trivial⟩, trivial⟩
  obtain ⟨-, hbound, hattrs, -, -, -, -, -, -, hhook, -⟩ :=
    mounting_splits_and_sets_up_once hmount htidy
  obtain ⟨props, hprops, hglobals, -⟩ := hhook rfl _ rfl
  refine ⟨hmount, htidy, hattrs.trans rfl, props, hglobals, ?_⟩
  rw [hprops, hbound]
  rfl

end RuledList
