/-
Which rule is for an item. Selection goes down the rules and stops at the
first that accepts the item, so what a rule does to the ones behind it is
a matter of the items that it accepts. A rule accepts an item that
carries its name, unless the item carries too much: a name beside the
rule's own that the rule does not declare (`Rule.Overfilled`). So of two
rules of one name the first hides the second for exactly the items that
do not overfill it, and hides it altogether if it declares whatever the
second declares (`Rule.hides_iff`).

Rules are told apart by their places (`Registry.place?`), since one rule
may stand in a registry twice.

# Growth

What stands before the selected rule decides, and what stands behind it
is not looked at. Rules added at the end are asked for items that were
declined, and no others (`Registry.place?_append`); a rule put in
anywhere moves the places behind it by one and takes the items that it
accepts, and no others (`Registry.place?_insert`).
-/
import RuledList.Proofs.Rule.Checking
import RuledList.Proofs.Rule.Matching

namespace RuledList

-- ============================================================== accepting

/-- The item that carries one name only. -/
def Props.single (name : String) (v : Value) : Props :=
  OrdMap.empty.insert name v

namespace Rule

/-- An item carries a name beside the rule's own that the rule does not
declare. -/
def Overfilled (rule : Rule) (item : Props) : Prop :=
  ∃ key ∈ item.keys, key ≠ rule.name ∧ rule.props.contains key = false

theorem accepts_iff {rule : Rule} {item : Props} :
    rule.accepts item = true
      ↔ rule.name ∈ item.keys ∧ ¬ rule.Overfilled item := by
  unfold accepts Overfilled
  rw [Bool.and_eq_true, List.all_eq_true, OrdMap.contains_iff]
  refine and_congr_right fun _ => ?_
  simp only [Bool.or_eq_true, beq_iff_eq, not_exists, not_and,
    Bool.not_eq_false]
  exact forall₂_congr fun key _ => or_iff_not_imp_left

/-- A rule declines an item that does not carry its name, or too much
beside it. -/
theorem accepts_eq_false_iff {rule : Rule} {item : Props} :
    rule.accepts item = false
      ↔ (rule.name ∈ item.keys → rule.Overfilled item) := by
  rw [← Bool.not_eq_true, accepts_iff, not_and, not_not]

/-- An item with one name is for the rules of that name. -/
theorem accepts_single (rule : Rule) (name : String) (v : Value) :
    rule.accepts (Props.single name v) = (rule.name == name) := by
  have hkeys : (Props.single name v).keys = [name] := rfl
  rw [Bool.eq_iff_iff, accepts_iff, beq_iff_eq]
  unfold Overfilled
  rw [hkeys]
  simp only [List.mem_singleton]
  constructor
  · exact And.left
  · intro hname
    refine ⟨hname, ?_⟩
    rintro ⟨key, rfl, hother, -⟩
    exact hother hname.symm

/-- An item that carries all that a rule declares, and the rule's
name. -/
def filled (rule : Rule) : Props :=
  (rule.props.filterMap fun _ _ => some Value.null).insert rule.name .null

theorem mem_keys_filled {rule : Rule} {key : String} :
    key ∈ rule.filled.keys
      ↔ key = rule.name ∨ rule.props.contains key = true := by
  have hdeclared : (rule.props.filterMap fun _ _ => some Value.null).contains
      key = rule.props.contains key := by
    unfold OrdMap.contains
    rw [OrdMap.get?_filterMap, Option.isSome_bind]
    cases rule.props.get? key <;> rfl
  unfold filled
  rw [OrdMap.keys, ← OrdMap.contains_iff, OrdMap.contains_insert_iff,
    hdeclared]

/-- Of two rules of one name the first accepts whatever the second does
if, and only if, it declares whatever the second declares. -/
theorem hides_iff {first second : Rule} (hname : first.name = second.name) :
    (∀ item, second.accepts item = true → first.accepts item = true)
      ↔ ∀ key, second.props.contains key = true →
        key = second.name ∨ first.props.contains key = true := by
  constructor
  · intro h key hkey
    -- the fullest item that the second rule accepts
    have hfilled : second.accepts second.filled = true := by
      refine accepts_iff.2 ⟨mem_keys_filled.2 (.inl rfl), ?_⟩
      rintro ⟨other, hother, hne, hundeclared⟩
      rcases mem_keys_filled.1 hother with heq | hdeclared
      · exact hne heq
      · rw [hundeclared] at hdeclared
        cases hdeclared
    obtain ⟨-, hfits⟩ := accepts_iff.1 (h _ hfilled)
    by_contra hneither
    rw [not_or, Bool.not_eq_true] at hneither
    exact hfits ⟨key, mem_keys_filled.2 (.inr hkey),
      hname ▸ hneither.1, hneither.2⟩
  · intro h item haccepts
    obtain ⟨hcarried, hfits⟩ := accepts_iff.1 haccepts
    refine accepts_iff.2 ⟨hname ▸ hcarried, ?_⟩
    rintro ⟨key, hkey, hne, hundeclared⟩
    refine hfits ⟨key, hkey, hname ▸ hne, ?_⟩
    by_contra hdeclared
    rw [Bool.not_eq_false] at hdeclared
    rcases h key hdeclared with heq | hcontains
    · exact hne (heq.trans hname.symm)
    · rw [hundeclared] at hcontains
      cases hcontains

end Rule

-- ================================================================= places

namespace Registry

/-- The place of the first rule whose shape an item has. -/
def place? (r : Registry) (item : Props) : Option Nat :=
  r.rules.findIdx? fun rule => rule.accepts item

theorem select?_eq_place? (r : Registry) (item : Props) :
    r.select? item = (r.place? item).bind fun i => r.rules[i]? :=
  List.find?_eq_bind_findIdx?_getElem?

/-- A rule is selected if it accepts the item and all rules before it
whose name the item carries are overfilled. -/
theorem place?_eq_some_iff {r : Registry} {item : Props} {i : Nat}
    {rule : Rule} (hrule : r.rules[i]? = some rule) :
    r.place? item = some i
      ↔ rule.accepts item = true ∧ ∀ j earlier, j < i →
        r.rules[j]? = some earlier → earlier.name ∈ item.keys →
          earlier.Overfilled item := by
  obtain ⟨hi, hget⟩ := List.getElem?_eq_some_iff.1 hrule
  unfold place?
  rw [List.findIdx?_eq_some_iff_getElem]
  constructor
  · rintro ⟨_, haccepts, hbefore⟩
    refine ⟨hget ▸ haccepts, fun j earlier hj hearlier => ?_⟩
    obtain ⟨_, rfl⟩ := List.getElem?_eq_some_iff.1 hearlier
    exact Rule.accepts_eq_false_iff.1 (Bool.eq_false_iff.2 (hbefore j hj))
  · rintro ⟨haccepts, hbefore⟩
    refine ⟨hi, hget ▸ haccepts, fun j hj => ?_⟩
    have hearlier := List.getElem?_eq_getElem (Nat.lt_trans hj hi)
    exact Bool.eq_false_iff.1
      (Rule.accepts_eq_false_iff.2 (hbefore j _ hj hearlier))

/-- A rule of the name of the selected one and before it is overfilled by
the item. -/
theorem exists_undeclared_of_place? {r : Registry} {item : Props}
    {i j : Nat} {rule earlier : Rule} (hplace : r.place? item = some i)
    (hrule : r.rules[i]? = some rule) (hj : j < i)
    (hearlier : r.rules[j]? = some earlier)
    (hname : earlier.name = rule.name) :
    ∃ key ∈ item.keys, key ≠ rule.name
      ∧ earlier.props.contains key = false := by
  obtain ⟨haccepts, hbefore⟩ := (place?_eq_some_iff hrule).1 hplace
  have hcarried : earlier.name ∈ item.keys :=
    hname ▸ (Rule.accepts_iff.1 haccepts).1
  rw [← hname]
  exact hbefore j earlier hj hearlier hcarried

theorem place?_congr {a b : Props}
    (h : ∀ name, name ∈ a.keys ↔ name ∈ b.keys) (r : Registry) :
    r.place? a = r.place? b :=
  congrArg (r.rules.findIdx? ·)
    (funext fun rule => rule.accepts_congr h)

theorem select?_single (r : Registry) (name : String) (v : Value) :
    r.select? (Props.single name v) = r.get? name :=
  congrArg (r.rules.find? ·)
    (funext fun rule => rule.accepts_single name v)

/-- Rules at the end are asked when no other accepts the item. -/
theorem place?_append (rules more : List Rule) (item : Props) :
    place? ⟨rules ++ more⟩ item
      = (place? ⟨rules⟩ item).or
          ((place? ⟨more⟩ item).map (· + rules.length)) :=
  List.findIdx?_append

/-- Rules at the end are of no matter for an item that a rule before them
accepts. -/
theorem place?_append_of_place? {r : Registry} {item : Props} {i : Nat}
    (h : r.place? item = some i) (more : List Rule) :
    place? ⟨r.rules ++ more⟩ item = some i := by
  rw [place?_append, h]
  rfl

theorem select?_append_of_place? {r : Registry} {item : Props} {i : Nat}
    (h : r.place? item = some i) (more : List Rule) :
    select? ⟨r.rules ++ more⟩ item = r.select? item := by
  obtain ⟨hi, -⟩ := List.findIdx?_eq_some_iff_getElem.1 h
  rw [select?_eq_place?, select?_eq_place?, place?_append_of_place? h, h]
  exact List.getElem?_append_left hi

/-- A rule that declines an item is of no matter for it but for the
places behind. -/
theorem place?_insert (before after : List Rule) {new : Rule}
    {item : Props} (h : new.accepts item = false) :
    place? ⟨before ++ new :: after⟩ item
      = (place? ⟨before ++ after⟩ item).map fun i =>
          if i < before.length then i else i + 1 := by
  have hnew : place? ⟨new :: after⟩ item
      = (place? ⟨after⟩ item).map (· + 1) := by
    unfold place?
    rw [List.findIdx?_cons, h]
    rfl
  rw [place?_append, place?_append, hnew]
  cases hbefore : place? ⟨before⟩ item with
  | some i =>
      obtain ⟨hi, -⟩ := List.findIdx?_eq_some_iff_getElem.1 hbefore
      simp [hi]
  | none =>
      cases place? ⟨after⟩ item with
      | none => rfl
      | some i =>
          have hbehind : ¬ i + before.length < before.length := by omega
          simp only [Option.none_or, Option.map_some, if_neg hbehind]
          congr 1
          omega

/-- A rule that declines an item does not change which rule is for
it. -/
theorem select?_insert (before after : List Rule) {new : Rule}
    {item : Props} (h : new.accepts item = false) :
    select? ⟨before ++ new :: after⟩ item
      = select? ⟨before ++ after⟩ item := by
  unfold select?
  rw [List.find?_append, List.find?_append, List.find?_cons, h]

/-- Among rules of different names each is selected by the item that
carries its name and nothing else. -/
theorem Sound.place?_single {rules : List Rule} (h : Sound rules)
    {i : Nat} {rule : Rule} (hrule : rules[i]? = some rule) (v : Value) :
    place? ⟨rules⟩ (Props.single rule.name v) = some i := by
  refine (place?_eq_some_iff hrule).2 ⟨?_, ?_⟩
  · rw [rule.accepts_single]
    exact beq_self_eq_true _
  · intro j earlier hj hearlier hcarried
    -- no earlier rule has the name
    have hsame : earlier.name = rule.name := List.mem_singleton.1 hcarried
    have hlong : j < (rules.map Rule.name).length := by
      rw [List.length_map]
      exact (List.getElem?_eq_some_iff.1 hearlier).1
    have hplaces : j = i := by
      refine (List.getElem?_inj hlong h.distinct).1 ?_
      rw [List.getElem?_map, List.getElem?_map, hearlier, hrule,
        Option.map_some, Option.map_some, hsame]
    omega

end Registry

/-- A pass over one item is one call of the rule for it. -/
theorem Pass.renderFrom_one {registry : Registry} {item : Props}
    {rule : Rule} (h : registry.select? item = some rule)
    (bound attrs : Props) (index : Nat) (p : Pass) :
    let called := p.renderItem rule bound attrs item index
    renderFrom registry bound attrs index [item] p
      = ([called.1], [], called.2) := by
  simp only [renderFrom, h]

-- ========================================================== main result

/-- Selection looks at the names in an item and at nothing else, and an
item with one name is for the rule that is found by that name. A rule is
selected exactly if it accepts the item and every earlier rule whose name
the item carries is overfilled by it, so it hides the later rules of its
name for the items it accepts, and for all items if it declares what they
declare. Rules at the end do not change what is selected for an item, and
a rule anywhere changes it for the items that it accepts only. In a
registry that was checked every rule is selected by the item with its
name alone, and a pass over that item calls it. -/
theorem selection_looks_at_names (r : Registry) :
    (∀ item, r.select? item = (r.place? item).bind fun i => r.rules[i]?)
    ∧ (∀ a b : Props, (∀ name, name ∈ a.keys ↔ name ∈ b.keys) →
        r.place? a = r.place? b ∧ r.select? a = r.select? b)
    ∧ (∀ name v, r.select? (Props.single name v) = r.get? name)
    ∧ (∀ item i rule, r.rules[i]? = some rule →
        (r.place? item = some i
          ↔ rule.accepts item = true ∧ ∀ j earlier, j < i →
            r.rules[j]? = some earlier → earlier.name ∈ item.keys →
              earlier.Overfilled item))
    ∧ (∀ item i rule, r.place? item = some i → r.rules[i]? = some rule →
        ∀ j earlier, j < i → r.rules[j]? = some earlier →
          earlier.name = rule.name → ∃ key ∈ item.keys,
            key ≠ rule.name ∧ earlier.props.contains key = false)
    ∧ (∀ first ∈ r.rules, ∀ second ∈ r.rules, first.name = second.name →
        ((∀ item, second.accepts item = true → first.accepts item = true)
          ↔ ∀ key, second.props.contains key = true →
            key = second.name ∨ first.props.contains key = true))
    ∧ (∀ more item i, r.place? item = some i →
        Registry.place? ⟨r.rules ++ more⟩ item = some i
          ∧ Registry.select? ⟨r.rules ++ more⟩ item = r.select? item)
    ∧ (∀ before after new item, r.rules = before ++ after →
        new.accepts item = false →
        Registry.place? ⟨before ++ new :: after⟩ item
            = ((r.place? item).map fun i =>
                if i < before.length then i else i + 1)
          ∧ Registry.select? ⟨before ++ new :: after⟩ item
            = r.select? item)
    ∧ ∀ rules i rule v, Registry.checked rules = .ok r →
        r.rules[i]? = some rule →
        let item := Props.single rule.name v
        r.place? item = some i ∧ r.select? item = some rule
          ∧ ∀ bound attrs index p,
            let called := Pass.renderItem p rule bound attrs item index
            Pass.renderFrom r bound attrs index [item] p
              = ([called.1], [], called.2) := by
  refine ⟨r.select?_eq_place?, ?_, r.select?_single, ?_, ?_, ?_, ?_, ?_, ?_⟩
  · exact fun a b h =>
      ⟨Registry.place?_congr h r, Registry.select?_congr h r⟩
  · exact fun item i rule hrule => Registry.place?_eq_some_iff hrule
  · exact fun item i rule hplace hrule j earlier hj hearlier hname =>
      Registry.exists_undeclared_of_place? hplace hrule hj hearlier hname
  · exact fun first _ second _ hname => Rule.hides_iff hname
  · exact fun more item i hplace =>
      ⟨Registry.place?_append_of_place? hplace more,
        Registry.select?_append_of_place? hplace more⟩
  · intro before after new item hrules hdeclines
    obtain ⟨rules⟩ := r
    obtain rfl : rules = before ++ after := hrules
    exact ⟨Registry.place?_insert before after hdeclines,
      Registry.select?_insert before after hdeclines⟩
  · intro rules i rule v hchecked hrule item
    obtain ⟨hnone, rfl⟩ := Registry.checked_eq_ok_iff.1 hchecked
    have hplace := (Registry.error?_eq_none_iff.1 hnone).place?_single
      hrule v
    have hselect : Registry.select? ⟨rules⟩ item = some rule := by
      rw [Registry.select?_eq_place?, hplace]
      exact hrule
    exact ⟨hplace, hselect, Pass.renderFrom_one hselect⟩

/-- A rule that declares nothing. -/
def narrowRule : Rule :=
  Rule.ofRender "x" fun _ _ _ globals => ⟨.text "narrow", globals, [], []⟩

/-- Another rule of that name, which declares a property. -/
def wideRule : Rule :=
  (Rule.ofRender "x" fun _ _ _ globals =>
    ⟨.text "wide", globals, [], []⟩).withProp "extra" PropSpec.unrestricted

/-- The second rule of a name is for the items with the property that the
first does not declare, in whatever order, also when rules are added; of
two rules that were checked, either is for the item with its name. -/
theorem wide_rule_selected_behind_narrow :
    let r : Registry := ⟨[narrowRule, wideRule]⟩
    let item : Props := (Props.single "x" (.bool true)).insert "extra" .null
    let turned : Props := (Props.single "extra" (.int 1)).insert "x" .null
    r.place? item = some 1
      ∧ (∃ key ∈ item.keys, key ≠ wideRule.name
        ∧ narrowRule.props.contains key = false)
      ∧ r.place? turned = some 1
      ∧ Registry.place? ⟨r.rules ++ [wideRule]⟩ item = some 1
      ∧ titledRule.accepts item = false
      ∧ Registry.place? ⟨[narrowRule, titledRule, wideRule]⟩ item = some 2
      ∧ Registry.checked [narrowRule, titledRule]
        = .ok ⟨[narrowRule, titledRule]⟩
      ∧ Registry.place? ⟨[narrowRule, titledRule]⟩
        (Props.single "a" .null) = some 1 := by
  intro r item turned
  have hplace : r.place? item = some 1 := rfl
  have hdeclines : titledRule.accepts item = false := by decide
  have hchecked : Registry.checked [narrowRule, titledRule]
      = .ok ⟨[narrowRule, titledRule]⟩ := rfl
  obtain ⟨-, hnames, -, -, hhidden, -, hmore, hinsert, -⟩ :=
    selection_looks_at_names r
  obtain ⟨-, -, -, -, -, -, -, -, hchosen⟩ :=
    selection_looks_at_names ⟨[narrowRule, titledRule]⟩
  have hsame : ∀ name, name ∈ item.keys ↔ name ∈ turned.keys := by
    intro name
    show name ∈ ["x", "extra"] ↔ name ∈ ["extra", "x"]
    simp [or_comm]
  have hmoved := (hinsert [narrowRule] [wideRule] titledRule item rfl
    hdeclines).1
  rw [hplace] at hmoved
  exact ⟨hplace, hhidden item 1 wideRule hplace rfl 0 narrowRule
      Nat.one_pos rfl rfl, (hnames item turned hsame).1 ▸ hplace,
    (hmore [wideRule] item 1 hplace).1, hdeclines, hmoved, hchecked,
    (hchosen _ 1 titledRule .null hchecked rfl).1⟩

end RuledList
