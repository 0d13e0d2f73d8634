/-
What an item is rendered with. Four sources say something about a name:
the defaults of the rule, what is bound to the component, the item, and
its ordinal. They are written one over the other into one map that
remembers the order of its names, so the *value* of a name comes from the
last source that has it and its *place* from the first. Attribute markup
shows both.

The list of items is bound to no name that an item sees, but it is no
reserved name either: a rule with a default for `data` and an item with a
field `data` keep theirs. The ordinal is reserved, and it is written over
a field `id` in the place that the field has.
-/
import RuledList.Proofs.OrdMap.Write
import RuledList.Rule.Resolve

namespace RuledList

-- ============================================================== sources

namespace Rule

/-- The default that a rule declares for a name, if it declares one. -/
def default? (rule : Rule) (name : String) : Option Value :=
  (rule.props.get? name).bind PropSpec.default?

/-- The declared names that have a default, in order of declaration. -/
def defaultNames (rule : Rule) : List String :=
  entryNames (rule.props.entries.filter fun e => e.2.default?.isSome)

theorem get?_defaults (rule : Rule) (name : String) :
    rule.defaults.get? name = rule.default? name :=
  OrdMap.get?_filterMap _ rule.props name

theorem keys_defaults (rule : Rule) :
    rule.defaults.keys = rule.defaultNames :=
  OrdMap.keys_filterMap _ rule.props

end Rule

namespace Props

/-- A map without the list of items. -/
def dropData (p : Props) : Props := p.filter fun name _ => name != dataName

theorem get?_dropData (p : Props) (name : String) :
    p.dropData.get? name
      = if name = dataName then none else p.get? name := by
  unfold dropData
  rw [OrdMap.get?_filter]
  by_cases hdata : name = dataName <;> simp [hdata]

theorem keys_dropData (p : Props) :
    p.dropData.keys = p.keys.filter fun name => name != dataName :=
  OrdMap.keys_filter _ p

end Props

-- ============================================================== merging

namespace Rule

variable (rule : Rule) (bound item : Props) (index : Nat)

/-- The last source that has a name gives its value. -/
theorem get?_resolve (name : String) :
    (rule.resolve bound item index).get? name
      = if name = ordinalName then some (.int index)
        else (item.get? name).or
          ((if name = dataName then none else bound.get? name).or
            (rule.default? name)) := by
  have hbound : rule.defaults.insertAll bound.withoutData
      = rule.defaults.insertAll bound.dropData.entries := rfl
  unfold resolve
  rw [OrdMap.get?_insert, OrdMap.get?_insertAll_entries, hbound,
    OrdMap.get?_insertAll_entries, Props.get?_dropData, get?_defaults]
  by_cases hname : name = ordinalName
  · rw [if_pos hname, if_pos hname.symm]
  · rw [if_neg hname, if_neg (Ne.symm hname)]

/-- The names that come to those there already: the new ones, in their
order. -/
def further (names there : List String) : List String :=
  names.filter fun name => name ∉ there

/-- The first source that has a name gives its place. -/
theorem keys_resolve :
    let declared := rule.defaultNames
    let withBound := declared
      ++ further (bound.keys.filter fun name => name != dataName) declared
    let withItem := withBound ++ further item.keys withBound
    (rule.resolve bound item index).keys
      = withItem ++ further [ordinalName] withItem := by
  intro declared withBound withItem
  have hbound : (rule.defaults.insertAll bound.withoutData).keys
      = withBound := by
    refine (OrdMap.keys_insertAll_entries rule.defaults
      bound.dropData).trans ?_
    rw [keys_defaults, Props.keys_dropData]
    rfl
  have hitem : ((rule.defaults.insertAll bound.withoutData).insertAll
      item.entries).keys = withItem := by
    rw [OrdMap.keys_insertAll_entries, hbound]
    rfl
  unfold resolve
  rw [OrdMap.keys_insert, hitem]
  by_cases hin : ordinalName ∈ withItem <;> simp [further, hin]

/-- An item that has the shape of a rule has a value under the rule's
name. -/
theorem exists_get?_of_accepts {item : Props}
    (h : rule.accepts item = true) :
    ∃ v, item.get? rule.name = some v := by
  obtain ⟨hname, -⟩ := Bool.and_eq_true_iff.1 h
  exact Option.isSome_iff_exists.1 hname

end Rule

-- =========================================================== main result

/-- What an item is rendered with, at a position, by a rule, with
properties bound. Under every name there is what the last source gives
that has the name: the position under `id`, else the item's field, else
what is bound, `data` excepted, else the rule's default, else nothing.
The names come in the order of the sources, each name once and where the
first source that has it puts it: those with a default, then the others
that are bound, `data` excepted, then the other fields of the item, then
`id` unless it is there. So an item that has the shape of the rule always
has its own value under the rule's name, unless the rule is named
`id`. -/
theorem resolve_overrides_in_order (rule : Rule) (bound item : Props)
    (index : Nat) :
    let resolved := rule.resolve bound item index
    let declared := rule.defaultNames
    let withBound := declared ++ Rule.further
      (bound.keys.filter fun name => name != dataName) declared
    let withItem := withBound ++ Rule.further item.keys withBound
    (∀ name, resolved.get? name
      = if name = ordinalName then some (.int index)
        else (item.get? name).or
          ((if name = dataName then none else bound.get? name).or
            (rule.default? name)))
    ∧ resolved.keys = withItem ++ Rule.further [ordinalName] withItem
    ∧ resolved.keys.Nodup
    ∧ (rule.accepts item = true → rule.name ≠ ordinalName →
        ∃ v, item.get? rule.name = some v
          ∧ resolved.get? rule.name = some v) := by
  intro resolved declared withBound withItem
  refine ⟨rule.get?_resolve bound item index,
    rule.keys_resolve bound item index, resolved.nodup, fun h hname => ?_⟩
  obtain ⟨v, hv⟩ := rule.exists_get?_of_accepts h
  refine ⟨v, hv, ?_⟩
  rw [rule.get?_resolve, if_neg hname, hv, Option.some_or]

/-- A rule with a default for its title and one for `data`. -/
def labelRule : Rule :=
  ((((Rule.ofRender "label" fun _ _ _ globals =>
    ⟨.text "label", globals, [], []⟩).withProp "title"
      ((PropSpec.ofType .string).withDefault (.string "none"))).withProp
        "id" PropSpec.unrestricted).withProp
        "data" (PropSpec.unrestricted.withDefault .null)).withProp
        "size" PropSpec.unrestricted.asInput

/-- What is bound: a size, a list of items and a name that the rule does
not declare. -/
def labelBound : Props :=
  ((OrdMap.empty.insert "size" (.int 1)).insert "data" (.array [])).insert
    "wide" (.bool true)

/-- An item with a size and an `id` of its own. -/
def labelItem : Props :=
  ((OrdMap.empty.insert "size" (.int 2)).insert "id"
    (.string "own")).insert "label" (.bool true)

/-- The title comes from the rule, the size from the item in the place of
the one that is bound, and the position is under `id`, where the item had
a text. What is bound to `data` does not show. -/
theorem label_resolved_in_order :
    let resolved := labelRule.resolve labelBound labelItem 3
    labelRule.accepts labelItem = true ∧ labelRule.name ≠ ordinalName
      ∧ resolved.keys = ["title", "data", "size", "wide", "id", "label"]
      ∧ resolved.get? "size" = some (.int 2)
      ∧ resolved.get? "id" = some (.int 3)
      ∧ resolved.get? "data" = some .null
      ∧ resolved.get? labelRule.name = some (.bool true) := by
  intro resolved
  have haccepts : labelRule.accepts labelItem = true := by decide
  have hname : labelRule.name ≠ ordinalName := by decide
  obtain ⟨hvalues, hkeys, -, hmatched⟩ :=
    resolve_overrides_in_order labelRule labelBound labelItem 3
  obtain ⟨v, hv, hresolved⟩ := hmatched haccepts hname
  have hown : v = .bool true := Option.some.inj (hv.symm.trans rfl)
  exact ⟨haccepts, hname, hkeys.trans (by decide), hvalues "size",
    hvalues "id", hvalues "data", hown ▸ hresolved⟩

end RuledList
