/-
What a surface is made of. The surface of a list of rules is built rule
by rule, and within a rule first the inputs are added, then the events
(`Surface.emits_addRule`): an input that the surface does not have yet
brings its update event, and an event that is not there yet is listed.
Both lists only ever grow at their ends.

# Names in two places

An event gets into the list of emitted events in two ways: some rule
*brings* it with an input (`Rule.Brings`), or some rule lists it. That
it is there is no more than that (`Surface.mem_emits_ofRules`), so the
names that may be emitted are the union of the two kinds. How often it is
there is another matter. A listed event is checked against the list of
events, but an input is checked against the properties. An event that is
listed before any rule brings it (`ListsFirst`) is therefore added a
second time when a later rule brings it, and in no other case is a name
there twice (`Surface.count_emits_ofRules`).
-/
import Mathlib.Data.List.Induction
import Mathlib.Data.List.Nodup
import RuledList.Component.Definition
import RuledList.Proofs.Component.Sharing
import RuledList.Proofs.Instance.Binding
import RuledList.Proofs.Instance.Mount
import RuledList.Proofs.OrdMap.Write

namespace RuledList

-- ============================================================= one rule

/-- A rule brings an event with an input: the event asks for a property to
be bound that the rule declares as an input. -/
def Rule.Brings (rule : Rule) (event : String) : Prop :=
  ∃ name, name ≠ dataName ∧ name ∈ entryNames rule.inputs
    ∧ event = Event.updateName name

/-- The inputs of a rule have distinct names. -/
theorem Rule.nodup_inputs (rule : Rule) :
    (entryNames rule.inputs).Nodup :=
  (List.filter_sublist.map Prod.fst).nodup rule.props.nodup

namespace Surface

/-- The inputs that a surface does not have yet. -/
def newInputs (s : Surface) (inputs : List (String × PropSpec)) :
    List (String × PropSpec) :=
  inputs.filter fun input => s.isForeign input.1

/-- The update events of inputs. -/
def updatesOf (inputs : List (String × PropSpec)) : List String :=
  inputs.map fun input => Event.updateName input.1

/-- An input that is there already, or that is the list of items, changes
nothing. -/
theorem addInput_old {s : Surface} {input : String × PropSpec}
    (h : s.isForeign input.1 = false) : s.addInput input = s := by
  unfold addInput
  by_cases hdata : input.1 = dataName
  · rw [if_pos hdata]
  · rw [if_neg hdata]
    by_cases hold : s.properties.contains input.1 = true
    · rw [if_pos hold]
    · rw [Bool.not_eq_true] at hold
      rw [isForeign_iff.2 ⟨hdata, hold⟩] at h
      cases h

/-- A new input is added at the end of the properties, and its update
event at the end of the events. -/
theorem addInput_new {s : Surface} {input : String × PropSpec}
    (h : s.isForeign input.1 = true) :
    s.addInput input
      = ⟨s.properties.insert input.1 input.2,
          s.emits ++ [Event.updateName input.1]⟩ := by
  obtain ⟨hdata, hnew⟩ := isForeign_iff.1 h
  unfold addInput
  rw [if_neg hdata, if_neg (by rw [hnew]; exact Bool.false_ne_true)]

/-- Of several inputs with distinct names the new ones are added, in
order. -/
theorem foldl_addInput (inputs : List (String × PropSpec))
    (hnodup : (entryNames inputs).Nodup) : ∀ s : Surface,
    inputs.foldl addInput s
      = ⟨s.properties.insertAll (s.newInputs inputs),
          s.emits ++ updatesOf (s.newInputs inputs)⟩ := by
  induction inputs with
  | nil =>
      intro s
      show s = ⟨s.properties, s.emits ++ []⟩
      rw [List.append_nil]
  | cons input rest ih =>
      intro s
      obtain ⟨hhead, hrest⟩ := List.nodup_cons.1 hnodup
      rw [List.foldl_cons, ih hrest]
      cases hnew : s.isForeign input.1 with
      | false =>
          have hskip : s.newInputs (input :: rest) = s.newInputs rest :=
            List.filter_cons_of_neg (by rw [hnew]; exact Bool.false_ne_true)
          rw [addInput_old hnew, hskip]
      | true =>
          have hkeep : s.newInputs (input :: rest)
              = input :: s.newInputs rest := List.filter_cons_of_pos hnew
          -- the inputs that follow have other names, so they are as new
          -- as they were
          have hlater : (s.addInput input).newInputs rest
              = s.newInputs rest := by
            refine List.filter_congr fun other hother => ?_
            have hne : input.1 ≠ other.1 := fun h =>
              hhead (h ▸ List.mem_map_of_mem hother)
            rw [addInput_new hnew, Bool.eq_iff_iff, isForeign_iff,
              isForeign_iff, Bool.eq_false_iff, Bool.eq_false_iff,
              Ne, Ne, OrdMap.contains_insert_iff]
            simp [hne.symm]
          rw [hlater, addInput_new hnew, hkeep]
          show Surface.mk _ (s.emits ++ [_] ++ _) = _
          rw [List.append_assoc]
          rfl

/-- Listed events are added at the end, each once and only if it is not
there; the properties stay as they are. -/
theorem foldl_addEvent (events : List String) : ∀ s : Surface,
    ∃ more, events.foldl addEvent s = ⟨s.properties, s.emits ++ more⟩
      ∧ more.Nodup ∧ ∀ event, event ∈ more ↔
        event ∈ events ∧ event ∉ s.emits := by
  induction events with
  | nil =>
      intro s
      refine ⟨[], ?_, List.nodup_nil, by simp⟩
      show s = ⟨s.properties, s.emits ++ []⟩
      rw [List.append_nil]
  | cons e rest ih =>
      intro s
      rw [List.foldl_cons]
      by_cases hin : e ∈ s.emits
      · obtain ⟨more, hmore, hnodup, hmem⟩ := ih s
        have hskip : s.addEvent e = s := by
          unfold addEvent
          rw [if_pos (List.contains_iff_mem.2 hin)]
        rw [hskip]
        refine ⟨more, hmore, hnodup, fun event => (hmem event).trans ?_⟩
        rw [List.mem_cons]
        constructor
        · exact fun h => ⟨.inr h.1, h.2⟩
        · intro h
          rcases h with ⟨rfl | h, hout⟩
          · exact absurd hin hout
          · exact ⟨h, hout⟩
      · have hadd : s.addEvent e = ⟨s.properties, s.emits ++ [e]⟩ := by
          unfold addEvent
          rw [if_neg fun h => hin (List.contains_iff_mem.1 h)]
        obtain ⟨more, hmore, hnodup, hmem⟩ := ih (s.addEvent e)
        rw [hadd] at hmore hmem ⊢
        refine ⟨e :: more, ?_, ?_, fun event => ?_⟩
        · rw [hmore]
          simp
        · refine List.nodup_cons.2 ⟨fun h => ?_, hnodup⟩
          exact ((hmem e).1 h).2 (by simp)
        · rw [List.mem_cons, hmem, List.mem_cons]
          constructor
          · intro h
            rcases h with rfl | ⟨h, hout⟩
            · exact ⟨.inl rfl, hin⟩
            · exact ⟨.inr h, fun h => hout (by simp [h])⟩
          · intro h
            rcases h with ⟨rfl | h, hout⟩
            · exact .inl rfl
            · by_cases he : event = e
              · exact .inl he
              · exact .inr ⟨h, by simp [he, hout]⟩

/-- A rule adds its new inputs to the properties. To the events it adds
what these inputs bring and then, each once, what it lists and is not
there. -/
theorem addRule_spec (s : Surface) (rule : Rule) :
    ∃ listed, s.addRule rule
        = ⟨s.properties.insertAll (s.newInputs rule.inputs),
            s.emits ++ updatesOf (s.newInputs rule.inputs) ++ listed⟩
      ∧ listed.Nodup
      ∧ ∀ event, event ∈ listed ↔ event ∈ rule.emits
          ∧ event ∉ s.emits ++ updatesOf (s.newInputs rule.inputs) := by
  unfold addRule
  rw [foldl_addInput rule.inputs rule.nodup_inputs s]
  exact foldl_addEvent rule.emits _

-- ============================================================ all rules

theorem ofRules_concat (rules : List Rule) (rule : Rule) :
    ofRules (rules ++ [rule]) = (ofRules rules).addRule rule :=
  List.foldl_append

/-- A surface takes the list of items and what some rule declares as an
input. -/
theorem contains_ofRules (name : String) (rules : List Rule) :
    (ofRules rules).properties.contains name = true ↔
      name = dataName ∨ ∃ rule ∈ rules, name ∈ entryNames rule.inputs := by
  induction rules using List.reverseRecOn with
  | nil =>
      show (OrdMap.empty.insert dataName dataSpec).contains name = true ↔ _
      rw [OrdMap.contains_insert_iff]
      simp [OrdMap.contains, OrdMap.get?, OrdMap.empty, findEntry]
  | append_singleton rules rule ih =>
      obtain ⟨listed, hadd, -, -⟩ := (ofRules rules).addRule_spec rule
      rw [ofRules_concat, hadd]
      refine (OrdMap.contains_insertAll_iff _ _).trans ?_
      have hsplit : (∃ r ∈ rules ++ [rule], name ∈ entryNames r.inputs)
          ↔ (∃ r ∈ rules, name ∈ entryNames r.inputs)
            ∨ name ∈ entryNames rule.inputs := by
        simp [or_and_right, exists_or]
      rw [newInputs, mem_entryNames_filter, isForeign_iff,
        Bool.eq_false_iff, Ne, Ne, ih, hsplit]
      constructor
      · intro h
        rcases h with ⟨-, h⟩ | h
        · exact .inr (.inr h)
        · exact h.imp id .inl
      · intro h
        rcases h with h | h | h
        · exact .inr (.inl h)
        · exact .inr (.inr h)
        · by_cases hold : name = dataName
              ∨ ∃ r ∈ rules, name ∈ entryNames r.inputs
          · exact .inr hold
          · exact .inl ⟨⟨fun hdata => hold (.inl hdata), hold⟩, h⟩

end Surface

-- =========================================================== two sources

/-- Some rule brings the event with an input. -/
def Brought (rules : List Rule) (event : String) : Prop :=
  ∃ rule ∈ rules, rule.Brings event

/-- Some rule lists the event. -/
def Listed (rules : List Rule) (event : String) : Prop :=
  ∃ rule ∈ rules, event ∈ rule.emits

instance (rules : List Rule) (event : String) :
    Decidable (Listed rules event) :=
  inferInstanceAs (Decidable (∃ rule ∈ rules, event ∈ rule.emits))

/-- Some rule lists the event, and up to this rule none brings it. -/
def ListsFirst (rules : List Rule) (event : String) : Prop :=
  ∃ before rule after, rules = before ++ rule :: after
    ∧ event ∈ rule.emits ∧ ¬ Brought (before ++ [rule]) event

/-- Some rule lists the event, up to this rule none brings it, and a later
one does. -/
def ListedThenBrought (rules : List Rule) (event : String) : Prop :=
  ∃ before rule after, rules = before ++ rule :: after
    ∧ event ∈ rule.emits ∧ ¬ Brought (before ++ [rule]) event
    ∧ Brought after event

section Sources

variable {rules : List Rule} {rule : Rule} {event : String}

theorem brought_append {later : List Rule} :
    Brought (rules ++ later) event
      ↔ Brought rules event ∨ Brought later event := by
  simp [Brought, or_and_right, exists_or]

theorem brought_concat :
    Brought (rules ++ [rule]) event
      ↔ Brought rules event ∨ rule.Brings event := by
  simp [Brought, or_and_right, exists_or]

theorem listed_concat :
    Listed (rules ++ [rule]) event
      ↔ Listed rules event ∨ event ∈ rule.emits := by
  simp [Listed, or_and_right, exists_or]

/-- An event is listed first by the last rule or by one before it. -/
theorem listsFirst_concat :
    ListsFirst (rules ++ [rule]) event ↔ ListsFirst rules event
      ∨ event ∈ rule.emits ∧ ¬ Brought (rules ++ [rule]) event := by
  constructor
  · intro h
    obtain ⟨before, r, after, hrules, hlists, hnot⟩ := h
    rcases List.eq_nil_or_concat after with rfl | ⟨later, last, rfl⟩
    · obtain ⟨rfl, hr⟩ := List.append_inj' hrules rfl
      cases hr
      exact .inr ⟨hlists, hnot⟩
    · rw [List.concat_eq_append, ← List.cons_append, ← List.append_assoc]
        at hrules
      obtain ⟨rfl, -⟩ := List.append_inj' hrules rfl
      exact .inl ⟨before, r, later, rfl, hlists, hnot⟩
  · intro h
    rcases h with ⟨before, r, after, rfl, hlists, hnot⟩ | ⟨hlists, hnot⟩
    · exact ⟨before, r, after ++ [rule], by simp, hlists, hnot⟩
    · exact ⟨rules, rule, [], rfl, hlists, hnot⟩

/-- An event that no rule brings is listed first as soon as it is
listed. -/
theorem listsFirst_of_not_brought (hnot : ¬ Brought rules event)
    (h : Listed rules event) : ListsFirst rules event := by
  obtain ⟨rule, hin, hlists⟩ := h
  obtain ⟨before, after, rfl⟩ := List.append_of_mem hin
  refine ⟨before, rule, after, rfl, hlists, fun hbrought => hnot ?_⟩
  rw [List.append_cons, brought_append]
  exact .inl hbrought

theorem ListsFirst.listed (h : ListsFirst rules event) :
    Listed rules event := by
  obtain ⟨before, rule, after, rfl, hlists, -⟩ := h
  exact ⟨rule, by simp, hlists⟩

/-- The last rule is the first to list an event if it lists it and the
event is neither brought up to then nor listed before. -/
theorem listsFirst_concat_new :
    ListsFirst (rules ++ [rule]) event ↔ ListsFirst rules event
      ∨ event ∈ rule.emits ∧ ¬ Brought (rules ++ [rule]) event
        ∧ ¬ Listed rules event := by
  rw [listsFirst_concat]
  constructor
  · intro h
    rcases h with h | ⟨hlists, hnot⟩
    · exact .inl h
    · by_cases hold : Listed rules event
      · refine .inl (listsFirst_of_not_brought (fun h => hnot ?_) hold)
        exact brought_concat.2 (.inl h)
      · exact .inr ⟨hlists, hnot, hold⟩
  · exact fun h => h.imp id fun h => ⟨h.1, h.2.1⟩

/-- What is listed first and brought as well is brought later. -/
theorem listedThenBrought_iff :
    ListedThenBrought rules event
      ↔ Brought rules event ∧ ListsFirst rules event := by
  constructor
  · intro h
    obtain ⟨before, rule, after, rfl, hlists, hnot, hlater⟩ := h
    refine ⟨?_, before, rule, after, rfl, hlists, hnot⟩
    rw [List.append_cons, brought_append]
    exact .inr hlater
  · intro h
    obtain ⟨hbrought, before, rule, after, rfl, hlists, hnot⟩ := h
    rw [List.append_cons, brought_append] at hbrought
    exact ⟨before, rule, after, rfl, hlists, hnot,
      hbrought.resolve_left hnot⟩

end Sources

namespace Surface

/-- The inputs that a rule adds to those of the rules before it bring the
events that none of these brings. -/
theorem mem_updatesOf_newInputs {rules : List Rule} {rule : Rule}
    {event : String} :
    event ∈ updatesOf ((ofRules rules).newInputs rule.inputs)
      ↔ rule.Brings event ∧ ¬ Brought rules event := by
  constructor
  · intro h
    obtain ⟨input, hinput, rfl⟩ := List.mem_map.1 h
    obtain ⟨hin, hnew⟩ := List.mem_filter.1 hinput
    obtain ⟨hdata, hfresh⟩ := isForeign_iff.1 hnew
    refine ⟨⟨input.1, hdata, List.mem_map_of_mem hin, rfl⟩, ?_⟩
    intro h
    obtain ⟨r, hr, name, -, hname, hevent⟩ := h
    rw [Event.updateName_inj.1 hevent] at hfresh
    rw [(contains_ofRules name rules).2 (.inr ⟨r, hr, hname⟩)] at hfresh
    cases hfresh
  · intro h
    obtain ⟨⟨name, hdata, hname, rfl⟩, hnot⟩ := h
    obtain ⟨input, hin, rfl⟩ := List.mem_map.1 hname
    refine List.mem_map.2 ⟨input, List.mem_filter.2 ⟨hin, ?_⟩, rfl⟩
    rw [isForeign_iff, Bool.eq_false_iff, Ne, Ne, contains_ofRules]
    refine ⟨hdata, ?_⟩
    intro h
    rcases h with h | ⟨r, hr, h⟩
    · exact hdata h
    · exact hnot ⟨r, hr, input.1, hdata, h, rfl⟩

/-- The events of a surface are those that some rule brings or lists. -/
theorem mem_emits_ofRules (event : String) (rules : List Rule) :
    event ∈ (ofRules rules).emits
      ↔ Brought rules event ∨ Listed rules event := by
  induction rules using List.reverseRecOn with
  | nil => simp [ofRules, bare, Brought, Listed]
  | append_singleton rules rule ih =>
      obtain ⟨listed, hadd, -, hmem⟩ := (ofRules rules).addRule_spec rule
      rw [ofRules_concat, hadd, brought_concat, listed_concat]
      simp only [List.mem_append, hmem, mem_updatesOf_newInputs, ih]
      tauto

theorem nodup_updatesOf {inputs : List (String × PropSpec)}
    (h : (entryNames inputs).Nodup) : (updatesOf inputs).Nodup := by
  have hmap : updatesOf inputs
      = (entryNames inputs).map Event.updateName := by
    rw [entryNames, List.map_map]
    rfl
  rw [hmap]
  exact h.map fun p q hpq => Event.updateName_inj.1 hpq

/-- What one more rule adds to the events: what it brings anew, and what it
lists that is neither brought nor listed so far. -/
theorem emits_concat (rules : List Rule) (rule : Rule) :
    ∃ new more, (ofRules (rules ++ [rule])).emits
        = (ofRules rules).emits ++ new ++ more
      ∧ new.Nodup
      ∧ (∀ event, event ∈ new ↔ rule.Brings event ∧ ¬ Brought rules event)
      ∧ more.Nodup
      ∧ ∀ event, event ∈ more ↔ event ∈ rule.emits
          ∧ ¬ Brought (rules ++ [rule]) event ∧ ¬ Listed rules event := by
  obtain ⟨more, hadd, hnodup, hmem⟩ := (ofRules rules).addRule_spec rule
  have hnew : (updatesOf ((ofRules rules).newInputs rule.inputs)).Nodup :=
    nodup_updatesOf
      ((List.filter_sublist.map Prod.fst).nodup rule.nodup_inputs)
  refine ⟨_, more, ?_, hnew, fun event => mem_updatesOf_newInputs, hnodup,
    fun event => ?_⟩
  · rw [ofRules_concat, hadd]
  · rw [hmem, List.mem_append, mem_emits_ofRules, mem_updatesOf_newInputs,
      brought_concat]
    tauto

/-- The events of rules in two parts: those that some rule brings, and
those that are listed before any rule brings them. -/
structure Parts (rules : List Rule) where
  brought : List String
  nodup_brought : brought.Nodup
  mem_brought : ∀ event, event ∈ brought ↔ Brought rules event
  listed : List String
  nodup_listed : listed.Nodup
  mem_listed : ∀ event, event ∈ listed ↔ ListsFirst rules event

/-- The parts of no rules are empty. -/
def Parts.none : Parts [] where
  brought := []
  nodup_brought := .nil
  mem_brought := by simp [Brought]
  listed := []
  nodup_listed := .nil
  mem_listed := by simp [ListsFirst]

/-- One more rule adds to either part at its end. -/
theorem Parts.exists_concat {rules : List Rule} (p : Parts rules)
    (rule : Rule) :
    ∃ q : Parts (rules ++ [rule]), ∃ new more,
      q.brought = p.brought ++ new ∧ q.listed = p.listed ++ more
      ∧ (ofRules (rules ++ [rule])).emits
        = (ofRules rules).emits ++ new ++ more := by
  obtain ⟨new, more, hemits, hnnodup, hnew, hmnodup, hmore⟩ :=
    emits_concat rules rule
  refine ⟨⟨p.brought ++ new, ?_, fun event => ?_, p.listed ++ more, ?_,
    fun event => ?_⟩, new, more, rfl, rfl, hemits⟩
  · refine List.nodup_append.2 ⟨p.nodup_brought, hnnodup, ?_⟩
    intro event hold other hin heq
    rw [← heq] at hin
    exact ((hnew event).1 hin).2 ((p.mem_brought event).1 hold)
  · rw [List.mem_append, p.mem_brought, hnew, brought_concat]
    tauto
  · refine List.nodup_append.2 ⟨p.nodup_listed, hmnodup, ?_⟩
    intro event hold other hin heq
    rw [← heq] at hin
    exact ((hmore event).1 hin).2.2 ((p.mem_listed event).1 hold).listed
  · rw [List.mem_append, p.mem_listed, hmore]
    exact listsFirst_concat_new.symm

/-- The events of a surface are the two parts together, in some order. -/
theorem emits_perm_ofRules (rules : List Rule) :
    ∃ p : Parts rules,
      (ofRules rules).emits.Perm (p.brought ++ p.listed) := by
  induction rules using List.reverseRecOn with
  | nil => exact ⟨.none, .nil⟩
  | append_singleton rules rule ih =>
      obtain ⟨p, hperm⟩ := ih
      obtain ⟨q, new, more, hbrought, hlisted, hemits⟩ :=
        p.exists_concat rule
      refine ⟨q, ?_⟩
      rw [hemits, hbrought, hlisted]
      refine ((hperm.append_right new).append_right more).trans ?_
      have hswap : (p.listed ++ (new ++ more)).Perm
          (new ++ (p.listed ++ more)) := List.perm_append_comm_assoc ..
      simpa only [List.append_assoc] using hswap.append_left p.brought

/-- How often an event is there. -/
theorem count_emits_ofRules (rules : List Rule) (event : String) :
    (ofRules rules).emits.count event ≤ 2
      ∧ ((ofRules rules).emits.count event = 2
          ↔ ListedThenBrought rules event) := by
  obtain ⟨p, hperm⟩ := emits_perm_ofRules rules
  rw [hperm.count_eq, List.count_append, p.nodup_brought.count,
    p.nodup_listed.count, listedThenBrought_iff, ← p.mem_brought,
    ← p.mem_listed]
  by_cases hb : event ∈ p.brought <;> by_cases hl : event ∈ p.listed <;>
    simp [hb, hl]

end Surface

-- ============================================================== counting

theorem eraseDups_concat (names : List String) (name : String) :
    (names ++ [name]).eraseDups
      = if name ∈ names then names.eraseDups
        else names.eraseDups ++ [name] := by
  rw [List.eraseDups_append]
  by_cases h : name ∈ names
  · simp [List.removeAll, h]
  · simp [List.removeAll, h, List.eraseDups_cons]

/-- There are as many different names as names exactly when no name is
there twice. -/
theorem distinctCount_spec (names : List String) :
    distinctCount names ≤ names.length
      ∧ (distinctCount names = names.length ↔ names.Nodup) := by
  unfold distinctCount
  induction names using List.reverseRecOn with
  | nil => simp
  | append_singleton names name ih =>
      obtain ⟨hle, hiff⟩ := ih
      have hnodup : (names ++ [name]).Nodup ↔ name ∉ names ∧ names.Nodup := by
        rw [← List.concat_eq_append, List.nodup_concat]
      rw [eraseDups_concat, List.length_append, List.length_singleton, hnodup]
      by_cases h : name ∈ names
      · simp only [h, ↓reduceIte]
        refine ⟨Nat.le_succ_of_le hle, ?_⟩
        constructor
        · intro heq
          omega
        · exact fun hno => absurd trivial hno.1
      · simp [h, hle, hiff]

-- ========================================================== main results

theorem Definition.surface_ofRegistry (registry : Registry)
    (config : OutputConfig) (a : Ambient) :
    (Definition.ofRegistry registry config a).1.surface
      = Surface.ofRules registry.rules :=
  congrArg Definition.surface (ofRegistry_eq registry config a)

/-- The events of a produced component are no set: an event that a rule
lists, that neither this rule nor an earlier one brings with an input,
and that a later one does bring, is there twice. No event is there more
than twice, and no other is there more than once. So the list has as many
entries as there are different names, which is what the emitter of an
instance reports, exactly when no event is listed first and brought
later. -/
theorem emits_repeat_iff (registry : Registry) (config : OutputConfig)
    (a : Ambient) :
    let rules := registry.rules
    let d := (Definition.ofRegistry registry config a).1
    let emits := (Component.produced d).emits
    (∀ event, event ∈ emits ↔ Brought rules event ∨ Listed rules event)
    ∧ (∀ event, emits.count event ≤ 2
        ∧ (emits.count event = 2 ↔ ListedThenBrought rules event))
    ∧ (emits.Nodup ↔ ∀ event, ¬ ListedThenBrought rules event)
    ∧ ∀ (component : Nat) (passed : Props) (data : List Props),
        let i := Instance.mounted component d passed data
        (i.emitter.declaredCount = emits.length
          ↔ ∀ event, ¬ ListedThenBrought rules event) := by
  intro rules d emits
  have hemits : emits = (Surface.ofRules rules).emits :=
    congrArg Surface.emits
      (Definition.surface_ofRegistry registry config a)
  have hcount := Surface.count_emits_ofRules rules
  have hnodup : emits.Nodup ↔ ∀ event, ¬ ListedThenBrought rules event := by
    rw [hemits, List.nodup_iff_count_le_one]
    refine forall_congr' fun event => ?_
    obtain ⟨hle, htwice⟩ := hcount event
    rw [← htwice]
    omega
  refine ⟨fun event => ?_, fun event => ?_, hnodup,
    fun component passed data => ?_⟩
  · rw [hemits]
    exact Surface.mem_emits_ofRules event rules
  · rw [hemits]
    exact hcount event
  · exact (distinctCount_spec emits).2.trans hnodup

/-- A rule that lists an update event, though it has no input for it. -/
def askingRule : Rule :=
  (Rule.ofRender "a" fun _ _ _ globals =>
    ⟨.text "a", globals, [], []⟩).withEmit "update:x"

/-- A rule that brings the same event with an input. -/
def takingRule : Rule :=
  (Rule.ofRender "b" fun _ _ _ globals =>
    ⟨.text "b", globals, [], []⟩).withProp "x"
      PropSpec.unrestricted.asInput

/-- The events of a component may repeat: here there are two, and an
instance reports one. -/
theorem emits_may_repeat :
    let d := (Definition.ofRegistry ⟨[askingRule, takingRule]⟩ .standard
      .start).1
    let i := Instance.mounted 0 d OrdMap.empty []
    (Component.produced d).emits = ["update:x", "update:x"]
      ∧ ¬ (Component.produced d).emits.Nodup
      ∧ i.emitter.declaredCount ≠ (Component.produced d).emits.length := by
  intro d i
  have hemits : (Component.produced d).emits = ["update:x", "update:x"] := by
    decide
  have hcount : i.emitter.declaredCount = 1 := by decide
  rw [hemits, hcount]
  exact ⟨rfl, by decide, by decide⟩

end RuledList
