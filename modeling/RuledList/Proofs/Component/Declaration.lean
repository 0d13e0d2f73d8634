/-
What the surface of a component says of its rules. Beside the list of
items it takes the properties that rules declare as inputs, in the order
in which they are first declared, and each as the rule specified it that
declared it first (`Surface.keys_ofRules`, `Surface.get?_ofRules`). A
later rule that declares the property otherwise is not heard, and `data`
keeps its own specification whatever rules say of it.

# Growth

Adding a rule adds to the properties at their end (`entries_addRule`) and
to the events at theirs. So the surface of some rules is the beginning of
the surface of these and more (`Extends`): what a component offers is
never changed by rules that come after. Rules in another order make
another beginning, but they offer the same names.
-/
import RuledList.Proofs.Component.Surface
import RuledList.Proofs.Instance.Run

namespace RuledList

-- =============================================================== inputs

/-- The specification of the input that a rule declares under a name, if
it declares one. -/
def Rule.input? (rule : Rule) (name : String) : Option PropSpec :=
  (rule.props.get? name).filter fun spec => spec.input

/-- The names that a rule declares as inputs, in order, `data` left out. -/
def Rule.inputNames (rule : Rule) : List String :=
  (entryNames rule.inputs).filter fun name => name != dataName

/-- The names that rules declare as inputs, rule by rule. A name is there
as often as rules declare it. -/
def inputNames (rules : List Rule) : List String :=
  rules.flatMap Rule.inputNames

theorem Rule.findEntry_inputs (rule : Rule) (name : String) :
    findEntry name rule.inputs = rule.input? name := by
  refine Option.ext fun spec => ?_
  rw [findEntry_eq_some_iff rule.nodup_inputs]
  unfold Rule.inputs Rule.input?
  rw [List.mem_filter, Option.filter_eq_some_iff, OrdMap.get?_eq_some_iff]

theorem Rule.isSome_input?_iff {rule : Rule} {name : String} :
    (rule.input? name).isSome = true ↔ name ∈ entryNames rule.inputs := by
  rw [← rule.findEntry_inputs, Option.isSome_iff_ne_none, Ne,
    findEntry_eq_none_iff, not_not]

theorem mem_inputNames {rules : List Rule} {name : String} :
    name ∈ inputNames rules
      ↔ name ≠ dataName ∧ ∃ rule ∈ rules, name ∈ entryNames rule.inputs := by
  unfold inputNames
  rw [List.mem_flatMap]
  constructor
  · intro h
    obtain ⟨rule, hrule, hname⟩ := h
    obtain ⟨hin, hdata⟩ := List.mem_filter.1 hname
    exact ⟨bne_iff_ne.1 hdata, rule, hrule, hin⟩
  · intro h
    obtain ⟨hdata, rule, hrule, hin⟩ := h
    exact ⟨rule, hrule, List.mem_filter.2 ⟨hin, bne_iff_ne.2 hdata⟩⟩

namespace Surface

-- =============================================================== growth

/-- The inputs that a rule adds stand behind the properties that are
there. -/
theorem entries_addRule (s : Surface) (rule : Rule) :
    (s.addRule rule).properties.entries
      = s.properties.entries ++ s.newInputs rule.inputs := by
  obtain ⟨listed, hadd, -, -⟩ := s.addRule_spec rule
  rw [hadd]
  refine OrdMap.entries_insertAll _ _ ?_
  have hnodup : (entryNames (s.newInputs rule.inputs)).Nodup :=
    (List.filter_sublist.map Prod.fst).nodup rule.nodup_inputs
  unfold entryNames at hnodup ⊢
  rw [List.map_append]
  refine List.nodup_append.2 ⟨s.properties.nodup, hnodup, ?_⟩
  intro name hold other hnew heq
  obtain ⟨-, hfresh⟩ := isForeign_iff.1 ((mem_entryNames_filter _).1 hnew).1
  rw [← heq, OrdMap.contains_iff.2 hold] at hfresh
  cases hfresh

/-- A surface begins another one: the properties of the first with their
specifications, and its events, come first in the second. -/
structure Extends (s t : Surface) : Prop where
  properties : s.properties.entries <+: t.properties.entries
  emits : s.emits <+: t.emits

theorem Extends.refl (s : Surface) : s.Extends s :=
  ⟨List.prefix_refl _, List.prefix_refl _⟩

theorem Extends.trans {s t u : Surface} (h : s.Extends t)
    (h' : t.Extends u) : s.Extends u :=
  ⟨h.properties.trans h'.properties, h.emits.trans h'.emits⟩

theorem extends_addRule (s : Surface) (rule : Rule) :
    s.Extends (s.addRule rule) := by
  obtain ⟨listed, hadd, -, -⟩ := s.addRule_spec rule
  refine ⟨⟨s.newInputs rule.inputs, (s.entries_addRule rule).symm⟩, ?_⟩
  rw [hadd, List.append_assoc]
  exact List.prefix_append _ _

/-- However many rules are added, the surface that was there begins the
one that comes out. -/
theorem extends_foldl_addRule (more : List Rule) : ∀ s : Surface,
    s.Extends (more.foldl addRule s) := by
  induction more with
  | nil => exact Extends.refl
  | cons rule rest ih =>
      intro s
      exact (s.extends_addRule rule).trans (ih (s.addRule rule))

theorem extends_ofRules_append (rules more : List Rule) :
    (ofRules rules).Extends (ofRules (rules ++ more)) := by
  unfold ofRules
  rw [List.foldl_append]
  exact extends_foldl_addRule more _

-- ============================================================== content

/-- The inputs that a rule adds to those of the rules before it are those
that none of these declares. -/
theorem entryNames_newInputs (rules : List Rule) (rule : Rule) :
    entryNames ((ofRules rules).newInputs rule.inputs)
      = rule.inputNames.removeAll (inputNames rules) := by
  unfold newInputs Rule.inputNames entryNames List.removeAll
  rw [List.filter_filter, List.filter_map]
  congr 1
  refine List.filter_congr fun input _ => ?_
  rw [Bool.eq_iff_iff]
  simp only [Function.comp, isForeign_iff, Bool.and_eq_true, bne_iff_ne,
    Bool.not_eq_true', Bool.eq_false_iff, ne_eq, contains_ofRules,
    List.elem_iff, mem_inputNames]
  by_cases hdata : input.1 = dataName <;> simp [hdata]

/-- The names of a surface: the list of items, and then the inputs where
they are first declared. -/
theorem keys_ofRules (rules : List Rule) :
    (ofRules rules).properties.keys
      = dataName :: (inputNames rules).eraseDups := by
  induction rules using List.reverseRecOn with
  | nil => rfl
  | append_singleton rules rule ih =>
      have hnew := entryNames_newInputs rules rule
      have honce : (rule.inputNames.removeAll (inputNames rules)).Nodup :=
        rule.nodup_inputs.sublist
          (List.filter_sublist.trans List.filter_sublist)
      have hsplit : inputNames (rules ++ [rule])
          = inputNames rules ++ rule.inputNames := by
        simp [inputNames]
      rw [ofRules_concat, OrdMap.keys, entries_addRule, hsplit,
        List.eraseDups_append, OrdMap.eraseDups_of_nodup honce, ← hnew,
        ← List.cons_append, ← ih]
      exact List.map_append

/-- Every property has the specification of the rule that declares it
first as an input. -/
theorem get?_ofRules (rules : List Rule) (name : String) :
    (ofRules rules).properties.get? name
      = if name = dataName then some dataSpec
        else rules.findSome? fun rule => rule.input? name := by
  induction rules using List.reverseRecOn with
  | nil =>
      show (OrdMap.empty.insert dataName dataSpec).get? name = _
      rw [OrdMap.get?_insert]
      by_cases hdata : name = dataName
      · rw [if_pos hdata, if_pos hdata.symm]
      · rw [if_neg hdata, if_neg (Ne.symm hdata)]
        rfl
  | append_singleton rules rule ih =>
      have hadded : findEntry name ((ofRules rules).newInputs rule.inputs)
          = if (ofRules rules).isForeign name then rule.input? name
            else none := by
        rw [← rule.findEntry_inputs]
        exact findEntry_filter _ name rule.inputs
      have hboth : (ofRules (rules ++ [rule])).properties.get? name
          = ((ofRules rules).properties.get? name).or
            (if (ofRules rules).isForeign name then rule.input? name
              else none) := by
        rw [ofRules_concat, OrdMap.get?, entries_addRule, findEntry_append,
          hadded]
        rfl
      rw [hboth]
      by_cases hdata : name = dataName
      · rw [ih, if_pos hdata, if_pos hdata, Option.some_or]
      · rw [if_neg hdata] at ih ⊢
        rw [List.findSome?_append, ← ih]
        cases hold : (ofRules rules).properties.get? name with
        | some spec => rfl
        | none =>
            have hforeign : (ofRules rules).isForeign name = true :=
              isForeign_iff.2 ⟨hdata, congrArg Option.isSome hold⟩
            rw [hforeign]
            simp

end Surface

namespace Surface

-- =============================================================== events

/-- An event is brought by rules if it asks for a property of theirs that
is not the list of items. -/
theorem brought_iff {rules : List Rule} {event : String} :
    Brought rules event ↔ ∃ name, name ≠ dataName
      ∧ (ofRules rules).properties.contains name = true
      ∧ event = Event.updateName name := by
  constructor
  · intro h
    obtain ⟨rule, hrule, name, hdata, hname, hevent⟩ := h
    exact ⟨name, hdata,
      (contains_ofRules name rules).2 (.inr ⟨rule, hrule, hname⟩), hevent⟩
  · intro h
    obtain ⟨name, hdata, hdeclared, hevent⟩ := h
    obtain ⟨rule, hrule, hname⟩ :=
      ((contains_ofRules name rules).1 hdeclared).resolve_left hdata
    exact ⟨rule, hrule, name, hdata, hname, hevent⟩

-- ================================================================ order

section Order

variable {rules rules' : List Rule} (h : rules.Perm rules')

include h

/-- Rules in another order have the same properties. -/
theorem contains_ofRules_perm (name : String) :
    (ofRules rules).properties.contains name
      = (ofRules rules').properties.contains name := by
  rw [Bool.eq_iff_iff, contains_ofRules, contains_ofRules]
  simp only [h.mem_iff]

/-- Rules in another order have the same events. -/
theorem mem_emits_ofRules_perm (event : String) :
    event ∈ (ofRules rules).emits ↔ event ∈ (ofRules rules').emits := by
  rw [mem_emits_ofRules, mem_emits_ofRules]
  unfold Brought Listed
  simp only [h.mem_iff]

end Order

-- ============================================================== notices

/-- Each rule that declares the list of items as an input is warned of,
once. -/
theorem notices_eq (rules : List Rule) :
    notices rules
      = (rules.filter fun rule => (rule.input? dataName).isSome).map
          fun rule => .reservedInput rule.name := by
  unfold notices
  induction rules with
  | nil => rfl
  | cons rule rest ih =>
      have hreserved : (rule.inputs.any fun e => e.1 == dataName)
          = (rule.input? dataName).isSome := by
        rw [Bool.eq_iff_iff, Rule.isSome_input?_iff, List.any_eq_true]
        simp [entryNames]
      cases hin : (rule.input? dataName).isSome with
      | true => simp [hreserved, hin, ih]
      | false => simp [hreserved, hin, ih]

end Surface

/-- What is told when a component is produced. -/
theorem Definition.notices_ofRegistry (registry : Registry)
    (config : OutputConfig) (a : Ambient) :
    (ofRegistry registry config a).2.notices
      = a.notices ++ Surface.notices registry.rules
        ++ (if config.functional && config.setup?.isSome
          then [.setupIgnored] else []) := by
  unfold ofRegistry
  cases config.functional with
  | false => exact (List.append_nil _).symm
  | true =>
      cases config.setup? with
      | none => exact (List.append_nil _).symm
      | some hook => rfl

-- ========================================================== main result

/-- The surface of a component produced from rules. Its properties are
`data` and then the names that some rule declares as an input, in the
order of their first declarations; each has the specification of the
first rule that declares it so, and `data` that of an array, empty unless
given, for which every rule that declares it is warned of once. An
instance, whatever is done to it, accepts an event if it is the update
event of a property other than `data` or some rule lists it, and no other
event. Further rules add properties and events behind those that are
there. Rules in another order make the same names and accept the same
events. -/
theorem surface_holds_what_rules_declare (rules : List Rule)
    (config : OutputConfig) (a : Ambient) :
    let made := Definition.ofRegistry ⟨rules⟩ config a
    let properties := (Component.produced made.1).properties
    let emits := (Component.produced made.1).emits
    properties.keys = dataName :: (inputNames rules).eraseDups
    ∧ (∀ name, properties.get? name
      = if name = dataName then
          some ⟨.array, some (.array []), false, false⟩
        else rules.findSome? fun rule => rule.input? name)
    ∧ made.2.notices = a.notices
      ++ ((rules.filter fun rule => (rule.input? dataName).isSome).map
        fun rule => .reservedInput rule.name)
      ++ (if config.functional && config.setup?.isSome
        then [.setupIgnored] else [])
    ∧ (∀ (component : Nat) (passed : Props) (b c : Ambient)
        (i : Instance) (moves : List Move),
        Instance.mount component made.1 passed b = (.ok i, c) →
        let m := (Moment.mk i c).finish moves
        ∀ event, (m.self.emitter.isDeclared event = true
            ↔ (∃ name, name ≠ dataName ∧ properties.contains name = true
                ∧ event = Event.updateName name)
              ∨ ∃ rule ∈ rules, event ∈ rule.emits)
          ∧ (event ∈ emits ↔ m.self.emitter.isDeclared event = true))
    ∧ (∀ (more : List Rule) (config' : OutputConfig) (b : Ambient),
        let grown := Component.produced
          (Definition.ofRegistry ⟨rules ++ more⟩ config' b).1
        properties.entries <+: grown.properties.entries
          ∧ emits <+: grown.emits)
    ∧ ∀ (rules' : List Rule) (config' : OutputConfig) (b : Ambient),
        rules.Perm rules' →
        let shuffled := Component.produced
          (Definition.ofRegistry ⟨rules'⟩ config' b).1
        (∀ name, properties.contains name
            = shuffled.properties.contains name)
          ∧ ∀ event, event ∈ emits ↔ event ∈ shuffled.emits := by
  intro made properties emits
  have hsurface : ∀ (rules' : List Rule) (config' : OutputConfig)
      (b : Ambient), (Definition.ofRegistry ⟨rules'⟩ config' b).1.surface
        = Surface.ofRules rules' := fun rules' config' b =>
    Definition.surface_ofRegistry ⟨rules'⟩ config' b
  have hproperties : properties = (Surface.ofRules rules).properties :=
    congrArg Surface.properties (hsurface rules config a)
  have hemits : emits = (Surface.ofRules rules).emits :=
    congrArg Surface.emits (hsurface rules config a)
  rw [hproperties, hemits]
  refine ⟨Surface.keys_ofRules rules, Surface.get?_ofRules rules, ?_, ?_,
    ?_, ?_⟩
  · rw [← Surface.notices_eq]
    exact Definition.notices_ofRegistry ⟨rules⟩ config a
  · intro component passed b c i moves hmount m event
    obtain ⟨data, -, hi, -⟩ := Instance.mount_inv hmount
    have hdeclared : m.self.emitter.declared
        = (Surface.ofRules rules).emits := by
      rw [((Moment.mk i c).steps_keep moves).2.2, hi, ← hemits]
      rfl
    have haccepted : m.self.emitter.isDeclared event = true
        ↔ event ∈ (Surface.ofRules rules).emits := by
      unfold Emitter.isDeclared
      rw [List.contains_iff_mem, hdeclared]
    refine ⟨?_, haccepted.symm⟩
    rw [haccepted, Surface.mem_emits_ofRules, Surface.brought_iff]
    exact Iff.rfl
  · intro more config' b grown
    obtain ⟨hfirst, hbefore⟩ :=
      Surface.extends_ofRules_append rules more
    rw [← hsurface (rules ++ more) config' b] at hfirst hbefore
    exact ⟨hfirst, hbefore⟩
  · intro rules' config' b hperm shuffled
    have hnames := Surface.contains_ofRules_perm hperm
    have hevents := Surface.mem_emits_ofRules_perm hperm
    rw [← hsurface rules' config' b] at hnames hevents
    exact ⟨hnames, hevents⟩

/-- A rule that declares `data` as an input, a size otherwise than the
gauge does, and a width. -/
def ruleOfThree : Rule :=
  ((((Rule.ofRender "b" fun _ _ _ globals =>
    ⟨.text "b", globals, [], []⟩).withProp "data"
      PropSpec.unrestricted.asInput).withProp "size"
        (PropSpec.ofType .number).asInput).withProp "width"
          (PropSpec.ofType .number).asInput).withEmit "t"

/-- The gauge's size is the one that counts when its rule comes first. -/
theorem gauge_surface_holds_three :
    let made := Definition.ofRegistry ⟨[gaugeRule, ruleOfThree]⟩
      .standard .start
    let properties := (Component.produced made.1).properties
    let i := Instance.mounted 0 made.1 (gaugeProps 1)
      [OrdMap.empty.insert "a" (.bool true)]
    properties.keys = ["data", "size", "width"]
      ∧ properties.get? "size" = some PropSpec.unrestricted.asInput
      ∧ made.2.notices = [.reservedInput "b"]
      ∧ Instance.mount 0 made.1 (gaugeProps 1) .start = (.ok i, .start)
      ∧ i.emitter.isDeclared "update:data" = false
      ∧ (Component.produced gauge).properties.entries <+: properties.entries
      ∧ [gaugeRule, ruleOfThree].Perm [ruleOfThree, gaugeRule]
      ∧ ("update:width" ∈ (Component.produced made.1).emits
        ↔ "update:width" ∈ (Component.produced
          (Definition.ofRegistry ⟨[ruleOfThree, gaugeRule]⟩ .standard
            .start).1).emits) := by
  intro made properties i
  have hmount : Instance.mount 0 made.1 (gaugeProps 1) .start
      = (.ok i, .start) := rfl
  have hperm : [gaugeRule, ruleOfThree].Perm [ruleOfThree, gaugeRule] :=
    .swap ..
  obtain ⟨hkeys, hspecs, hnotices, haccepts, -, hshuffled⟩ :=
    surface_holds_what_rules_declare [gaugeRule, ruleOfThree] .standard
      .start
  obtain ⟨-, -, -, -, hgrown, -⟩ :=
    surface_holds_what_rules_declare [gaugeRule]
      { OutputConfig.standard with container := .none } .start
  have hrefused : i.emitter.isDeclared "update:data" = false := by
    rw [← Bool.not_eq_true]
    intro h
    rcases ((haccepts 0 _ .start .start i [] hmount _).1).1 h with
      ⟨name, hdata, -, hevent⟩ | ⟨rule, hrule, hevent⟩
    · have hsame : Event.updateName name = Event.updateName dataName :=
        hevent.symm
      exact hdata (Event.updateName_inj.1 hsame)
    · revert hevent
      rcases List.mem_cons.1 hrule with rfl | hrule
      · decide
      · obtain rfl := List.mem_singleton.1 hrule
        decide
  refine ⟨hkeys.trans (by decide), (hspecs "size").trans rfl, hnotices,
    hmount, hrefused, (hgrown [ruleOfThree] .standard .start).1, hperm,
    (hshuffled _ .standard .start hperm).2 _⟩

end RuledList
