/-
What checking a registry finds. Rules are sound when each has a name of
its own and none of their declared properties contradicts itself
(`Registry.Sound`). Checking accepts sound rules and no others. Of rules
that are not sound it reports the first fault: the rules before the
faulty one are sound, and in that rule an empty name comes before a
repeated one, and both before the first of its properties that
contradicts itself (`Registry.FirstFault`). A fault is reported before
the rules behind it are looked at, so further rules do not change the
report.

# The induction

Checking goes down the rules with the names that are taken already, and
with the position of the next rule. Both are parameters of the induction
on the rules (`Registry.errorFrom?_eq_some_iff`): what is said of rules
is said of rules behind others whose names are taken. Which names are
taken matters, but not in which order they stand (`Rule.Faulty.congr`).
-/
import RuledList.Proofs.Component.Declaration
import RuledList.Proofs.Rule.Override
import RuledList.Rule.Registry

namespace RuledList

-- ============================================================ properties

/-- A declared property does not contradict itself: if it has a default,
it need not be supplied, and the default has its type. -/
def PropSpec.Coherent (spec : PropSpec) : Prop :=
  ∀ v, spec.default? = some v →
    spec.required = false ∧ spec.type.accepts v = true

/-- How a property of a rule contradicts itself. That it must be supplied
is told before anything is said of the type of its default. -/
inductive PropSpec.Contradicts (rule property : String) :
    PropSpec → RegistryError → Prop where
  | required {spec : PropSpec} {v : Value}
      (hdefault : spec.default? = some v) (hrequired : spec.required = true) :
      Contradicts rule property spec (.requiredWithDefault rule property)
  | mismatched {spec : PropSpec} {v : Value}
      (hdefault : spec.default? = some v) (hrequired : spec.required = false)
      (htype : spec.type.accepts v = false) :
      Contradicts rule property spec
        (.defaultTypeMismatch rule property spec.type)

theorem PropSpec.Contradicts.not_coherent {rule property : String}
    {spec : PropSpec} {e : RegistryError}
    (h : spec.Contradicts rule property e) : ¬ spec.Coherent := by
  intro hcoherent
  cases h with
  | required hdefault hrequired =>
      obtain ⟨hoptional, -⟩ := hcoherent _ hdefault
      rw [hrequired] at hoptional
      cases hoptional
  | mismatched hdefault _ htype =>
      obtain ⟨-, haccepts⟩ := hcoherent _ hdefault
      rw [htype] at haccepts
      cases haccepts

namespace Registry

theorem specError?_eq_none_iff {rule property : String} {spec : PropSpec} :
    specError? rule property spec = none ↔ spec.Coherent := by
  unfold specError? PropSpec.Coherent
  cases spec.default? with
  | none => simp
  | some v =>
      cases spec.required with
      | true => simp
      | false => cases htype : spec.type.accepts v <;> simp [htype]

theorem specError?_eq_some_iff {rule property : String} {spec : PropSpec}
    {e : RegistryError} :
    specError? rule property spec = some e
      ↔ spec.Contradicts rule property e := by
  constructor
  · intro h
    unfold specError? at h
    cases hdefault : spec.default? with
    | none => simp [hdefault] at h
    | some v =>
        simp only [hdefault] at h
        split at h
        · next hrequired =>
          cases h
          exact .required hdefault hrequired
        · next hrequired =>
          split at h
          · cases h
          · next htype =>
            cases h
            exact .mismatched hdefault (Bool.eq_false_iff.2 hrequired)
              (Bool.eq_false_iff.2 htype)
  · intro h
    unfold specError?
    cases h with
    | required hdefault hrequired => simp [hdefault, hrequired]
    | mismatched hdefault hrequired htype =>
        simp [hdefault, hrequired, htype]

end Registry

-- ================================================================= rules

namespace Rule

/-- No declared property of a rule contradicts itself. -/
def Coherent (rule : Rule) : Prop :=
  ∀ e ∈ rule.props.entries, e.2.Coherent

/-- Nothing is wrong with a rule behind rules whose names are taken. -/
structure Fits (taken : List String) (rule : Rule) : Prop where
  named : rule.name ≠ ""
  untaken : rule.name ∉ taken
  coherent : rule.Coherent

/-- What is wrong with a rule at a position, behind rules whose names are
taken: the first of the things that may be. -/
inductive Faulty (taken : List String) (position : Nat) (rule : Rule) :
    RegistryError → Prop where
  | unnamed (hname : rule.name = "") :
      Faulty taken position rule (.emptyName position)
  | repeated (hname : rule.name ≠ "") (htaken : rule.name ∈ taken) :
      Faulty taken position rule (.duplicateName rule.name)
  | property {before after : List (String × PropSpec)} {property : String}
      {spec : PropSpec} {e : RegistryError}
      (hname : rule.name ≠ "") (huntaken : rule.name ∉ taken)
      (hprops : rule.props.entries = before ++ (property, spec) :: after)
      (hbefore : ∀ other ∈ before, other.2.Coherent)
      (hspec : spec.Contradicts rule.name property e) :
      Faulty taken position rule e

theorem Faulty.not_fits {taken : List String} {position : Nat}
    {rule : Rule} {e : RegistryError} (h : rule.Faulty taken position e) :
    ¬ rule.Fits taken := by
  intro hfits
  cases h with
  | unnamed hname => exact hfits.named hname
  | repeated _ htaken => exact hfits.untaken htaken
  | @property before after property spec _ _ _ hprops _ hspec =>
      have hin : (property, spec) ∈ rule.props.entries := by simp [hprops]
      exact hspec.not_coherent (hfits.coherent _ hin)

/-- Taken names may stand in any order, and more than once. -/
theorem Faulty.congr {taken taken' : List String}
    (h : ∀ name, name ∈ taken ↔ name ∈ taken') {position : Nat}
    {rule : Rule} {e : RegistryError}
    (hfaulty : rule.Faulty taken position e) :
    rule.Faulty taken' position e := by
  cases hfaulty with
  | unnamed hname => exact .unnamed hname
  | repeated hname htaken => exact .repeated hname ((h _).1 htaken)
  | property hname huntaken hprops hbefore hspec =>
      exact .property hname (fun hin => huntaken ((h _).2 hin)) hprops
        hbefore hspec

/-- The first of the rules before a faulty one may as well be counted
among those whose names are taken. -/
theorem faulty_cons {taken : List String} {index : Nat} {first : Rule}
    {before : List Rule} {rule : Rule} {e : RegistryError} :
    rule.Faulty ((first :: before).map Rule.name ++ taken)
        (index + (first :: before).length) e
      ↔ rule.Faulty (before.map Rule.name ++ first.name :: taken)
          (index + 1 + before.length) e := by
  have hnames : ∀ name, name ∈ (first :: before).map Rule.name ++ taken
      ↔ name ∈ before.map Rule.name ++ first.name :: taken := by
    intro name
    simp only [List.map_cons, List.cons_append, List.mem_append,
      List.mem_cons]
    tauto
  have hposition : index + (first :: before).length
      = index + 1 + before.length := by
    rw [List.length_cons]
    omega
  rw [hposition]
  exact ⟨Faulty.congr hnames, Faulty.congr fun name => (hnames name).symm⟩

end Rule

namespace Registry

theorem propsError?_eq_none_iff {rule : Rule} :
    propsError? rule = none ↔ rule.Coherent := by
  unfold propsError? Rule.Coherent
  rw [List.findSome?_eq_none_iff]
  exact forall₂_congr fun _ _ => specError?_eq_none_iff

theorem propsError?_eq_some_iff {rule : Rule} {e : RegistryError} :
    propsError? rule = some e
      ↔ ∃ before property spec after,
        rule.props.entries = before ++ (property, spec) :: after
          ∧ (∀ other ∈ before, other.2.Coherent)
          ∧ spec.Contradicts rule.name property e := by
  unfold propsError?
  rw [List.findSome?_eq_some_iff]
  simp only [specError?_eq_some_iff, specError?_eq_none_iff]
  constructor
  · rintro ⟨before, ⟨property, spec⟩, after, hprops, hspec, hbefore⟩
    exact ⟨before, property, spec, after, hprops, hbefore, hspec⟩
  · rintro ⟨before, property, spec, after, hprops, hbefore, hspec⟩
    exact ⟨before, (property, spec), after, hprops, hspec, hbefore⟩

-- ============================================================== checking

section Step

variable {taken : List String} {index : Nat} {rule : Rule}
  {rest : List Rule}

/-- A rule with which nothing is wrong is passed over, and its name is
taken. -/
theorem errorFrom?_of_fits (h : rule.Fits taken) :
    errorFrom? taken index (rule :: rest)
      = errorFrom? (rule.name :: taken) (index + 1) rest := by
  rw [errorFrom?, if_neg h.named, if_neg h.untaken,
    propsError?_eq_none_iff.2 h.coherent]

/-- A rule with which something is wrong ends the checking. -/
theorem errorFrom?_of_faulty {e : RegistryError}
    (h : rule.Faulty taken index e) :
    errorFrom? taken index (rule :: rest) = some e := by
  unfold errorFrom?
  cases h with
  | unnamed hname => rw [if_pos hname]
  | repeated hname htaken => rw [if_neg hname, if_pos htaken]
  | property hname huntaken hprops hbefore hspec =>
      have herror : propsError? rule = some e :=
        propsError?_eq_some_iff.2 ⟨_, _, _, _, hprops, hbefore, hspec⟩
      rw [if_neg hname, if_neg huntaken, herror]

variable (taken index rule)

theorem fits_or_faulty :
    rule.Fits taken ∨ ∃ e, rule.Faulty taken index e := by
  by_cases hname : rule.name = ""
  · exact .inr ⟨_, .unnamed hname⟩
  · by_cases htaken : rule.name ∈ taken
    · exact .inr ⟨_, .repeated hname htaken⟩
    · cases herror : propsError? rule with
      | none =>
          exact .inl ⟨hname, htaken, propsError?_eq_none_iff.1 herror⟩
      | some e =>
          obtain ⟨before, property, spec, after, hprops, hbefore, hspec⟩ :=
            propsError?_eq_some_iff.1 herror
          exact .inr ⟨e, .property hname htaken hprops hbefore hspec⟩

end Step

/-- Nothing is wrong with rules behind others whose names are taken. -/
structure SoundAfter (taken : List String) (rules : List Rule) : Prop where
  named : ∀ rule ∈ rules, rule.name ≠ ""
  untaken : ∀ rule ∈ rules, rule.name ∉ taken
  distinct : (rules.map Rule.name).Nodup
  coherent : ∀ rule ∈ rules, rule.Coherent

theorem soundAfter_nil (taken : List String) : SoundAfter taken [] :=
  ⟨nofun, nofun, List.nodup_nil, nofun⟩

theorem soundAfter_cons {taken : List String} {rule : Rule}
    {rest : List Rule} :
    SoundAfter taken (rule :: rest)
      ↔ rule.Fits taken ∧ SoundAfter (rule.name :: taken) rest := by
  constructor
  · intro h
    obtain ⟨hfresh, hdistinct⟩ := List.nodup_cons.1 h.distinct
    refine ⟨⟨h.named rule List.mem_cons_self,
        h.untaken rule List.mem_cons_self,
        h.coherent rule List.mem_cons_self⟩, ?_, ?_, hdistinct, ?_⟩
    · exact fun other hother => h.named other (List.mem_cons_of_mem _ hother)
    · intro other hother htaken
      rcases List.mem_cons.1 htaken with hsame | htaken
      · exact hfresh (hsame ▸ List.mem_map_of_mem hother)
      · exact h.untaken other (List.mem_cons_of_mem _ hother) htaken
    · exact fun other hother =>
        h.coherent other (List.mem_cons_of_mem _ hother)
  · rintro ⟨hfits, hrest⟩
    refine ⟨?_, ?_, List.nodup_cons.2 ⟨?_, hrest.distinct⟩, ?_⟩
    · exact List.forall_mem_cons.2 ⟨hfits.named, hrest.named⟩
    · refine List.forall_mem_cons.2 ⟨hfits.untaken, fun other hother h => ?_⟩
      exact hrest.untaken other hother (List.mem_cons_of_mem _ h)
    · intro hin
      obtain ⟨other, hother, hsame⟩ := List.mem_map.1 hin
      exact hrest.untaken other hother (hsame ▸ List.mem_cons_self)
    · exact List.forall_mem_cons.2 ⟨hfits.coherent, hrest.coherent⟩

/-- Checking stops at the first rule with which something is wrong. -/
theorem errorFrom?_eq_some_iff {e : RegistryError} (rules : List Rule) :
    ∀ (taken : List String) (index : Nat),
      errorFrom? taken index rules = some e
        ↔ ∃ before rule after, rules = before ++ rule :: after
          ∧ SoundAfter taken before
          ∧ rule.Faulty (before.map Rule.name ++ taken)
              (index + before.length) e := by
  induction rules with
  | nil => simp [errorFrom?]
  | cons first rest ih =>
      intro taken index
      constructor
      · intro h
        rcases fits_or_faulty taken index first with hfits | ⟨e', hfaulty⟩
        · rw [errorFrom?_of_fits hfits, ih] at h
          obtain ⟨before, rule, after, rfl, hbefore, hrule⟩ := h
          exact ⟨first :: before, rule, after, rfl,
            soundAfter_cons.2 ⟨hfits, hbefore⟩, Rule.faulty_cons.2 hrule⟩
        · rw [errorFrom?_of_faulty hfaulty] at h
          cases h
          exact ⟨[], first, rest, rfl, soundAfter_nil taken, hfaulty⟩
      · rintro ⟨before, rule, after, hrules, hbefore, hrule⟩
        cases before with
        | nil =>
            cases hrules
            exact errorFrom?_of_faulty hrule
        | cons other before =>
            injection hrules with hfirst hrest
            subst hfirst hrest
            obtain ⟨hfits, hbefore⟩ := soundAfter_cons.1 hbefore
            rw [errorFrom?_of_fits hfits, ih]
            exact ⟨before, rule, after, rfl, hbefore,
              Rule.faulty_cons.1 hrule⟩

theorem errorFrom?_eq_none_iff (rules : List Rule) :
    ∀ (taken : List String) (index : Nat),
      errorFrom? taken index rules = none ↔ SoundAfter taken rules := by
  induction rules with
  | nil =>
      exact fun taken _ => ⟨fun _ => soundAfter_nil taken, fun _ => rfl⟩
  | cons first rest ih =>
      intro taken index
      rw [soundAfter_cons]
      rcases fits_or_faulty taken index first with hfits | ⟨e, hfaulty⟩
      · rw [errorFrom?_of_fits hfits, ih]
        exact (and_iff_right hfits).symm
      · rw [errorFrom?_of_faulty hfaulty]
        exact ⟨nofun, fun ⟨hfits, _⟩ => absurd hfits hfaulty.not_fits⟩

/-- Rules are sound: each has a name of its own, and none of their
declared properties contradicts itself. -/
structure Sound (rules : List Rule) : Prop where
  named : ∀ rule ∈ rules, rule.name ≠ ""
  distinct : (rules.map Rule.name).Nodup
  coherent : ∀ rule ∈ rules, rule.Coherent

theorem soundAfter_none_iff {rules : List Rule} :
    SoundAfter [] rules ↔ Sound rules :=
  ⟨fun h => ⟨h.named, h.distinct, h.coherent⟩,
    fun h => ⟨h.named, fun _ _ => List.not_mem_nil, h.distinct, h.coherent⟩⟩

/-- What is wrong with rules first: something is wrong with a rule, and
the rules before it are sound. -/
def FirstFault (rules : List Rule) (e : RegistryError) : Prop :=
  ∃ before rule after, rules = before ++ rule :: after ∧ Sound before
    ∧ rule.Faulty (before.map Rule.name) before.length e

theorem error?_eq_none_iff {rules : List Rule} :
    error? ⟨rules⟩ = none ↔ Sound rules := by
  unfold error?
  rw [errorFrom?_eq_none_iff, soundAfter_none_iff]

theorem error?_eq_some_iff {rules : List Rule} {e : RegistryError} :
    error? ⟨rules⟩ = some e ↔ FirstFault rules e := by
  unfold error? FirstFault
  rw [errorFrom?_eq_some_iff]
  simp only [soundAfter_none_iff, List.append_nil, Nat.zero_add]

/-- Further rules do not change what is wrong first. -/
theorem FirstFault.append {rules : List Rule} {e : RegistryError}
    (h : FirstFault rules e) (more : List Rule) :
    FirstFault (rules ++ more) e := by
  obtain ⟨before, rule, after, rfl, hbefore, hrule⟩ := h
  exact ⟨before, rule, after ++ more, by simp, hbefore, hrule⟩

theorem checked_eq_error_iff {rules : List Rule} {e : RegistryError} :
    checked rules = .error e ↔ error? ⟨rules⟩ = some e := by
  unfold checked
  cases error? ⟨rules⟩ <;> simp

theorem checked_eq_ok_iff {rules : List Rule} {r : Registry} :
    checked rules = .ok r ↔ error? ⟨rules⟩ = none ∧ r = ⟨rules⟩ := by
  unfold checked
  cases error? ⟨rules⟩ <;> simp [eq_comm]

-- ============================================================== defaults

/-- The defaults of a sound rule have the types that it declares. -/
theorem Sound.accepts_default {rules : List Rule} (h : Sound rules)
    {rule : Rule} (hrule : rule ∈ rules) {name : String} {v : Value}
    (hv : rule.defaults.get? name = some v) :
    ∃ spec, rule.props.get? name = some spec
      ∧ spec.type.accepts v = true := by
  rw [rule.get?_defaults, Rule.default?, Option.bind_eq_some_iff] at hv
  obtain ⟨spec, hspec, hdefault⟩ := hv
  have hin := OrdMap.get?_eq_some_iff.1 hspec
  exact ⟨spec, hspec, (h.coherent rule hrule _ hin v hdefault).2⟩

/-- The specifications that sound rules give a component do not
contradict themselves. -/
theorem Sound.coherent_surface {rules : List Rule} (h : Sound rules)
    {name : String} {spec : PropSpec}
    (hspec : (Surface.ofRules rules).properties.get? name = some spec) :
    spec.Coherent := by
  rw [Surface.get?_ofRules] at hspec
  split at hspec
  · -- the list of items: an empty array
    cases hspec
    intro v hv
    cases hv
    exact ⟨rfl, rfl⟩
  · obtain ⟨rule, hrule, hinput⟩ := List.exists_of_findSome?_eq_some hspec
    obtain ⟨hdeclared, -⟩ := Option.filter_eq_some_iff.1 hinput
    exact h.coherent rule hrule _ (OrdMap.get?_eq_some_iff.1 hdeclared)

end Registry

-- ========================================================== main result

/-- Checking accepts exactly the sound rules, and of others it reports
what is wrong first, whatever rules follow. A registry is built exactly
when nothing is reported; then every default of every rule, and every
default that a component produced from them declares, has its declared
type. -/
theorem checking_reports_first_fault (rules : List Rule) :
    (Registry.error? ⟨rules⟩ = none ↔ Registry.Sound rules)
    ∧ (∀ e, Registry.error? ⟨rules⟩ = some e
        ↔ Registry.FirstFault rules e)
    ∧ (∀ e more, Registry.error? ⟨rules⟩ = some e →
        Registry.error? ⟨rules ++ more⟩ = some e)
    ∧ (∀ r, Registry.checked rules = .ok r
        ↔ Registry.error? ⟨rules⟩ = none ∧ r = ⟨rules⟩)
    ∧ (∀ e, Registry.checked rules = .error e
        ↔ Registry.error? ⟨rules⟩ = some e)
    ∧ ∀ r config a, Registry.checked rules = .ok r →
        let made := Component.produced (Definition.ofRegistry r config a).1
        (∀ rule ∈ r.rules, ∀ name v, rule.defaults.get? name = some v →
          ∃ spec, rule.props.get? name = some spec
            ∧ spec.type.accepts v = true)
        ∧ ∀ name spec v, made.properties.get? name = some spec →
          spec.default? = some v → spec.type.accepts v = true := by
  refine ⟨Registry.error?_eq_none_iff, fun e => Registry.error?_eq_some_iff,
    ?_, fun r => Registry.checked_eq_ok_iff,
    fun e => Registry.checked_eq_error_iff, ?_⟩
  · intro e more h
    rw [Registry.error?_eq_some_iff] at h ⊢
    exact h.append more
  · intro r config a h made
    obtain ⟨hnone, rfl⟩ := Registry.checked_eq_ok_iff.1 h
    have hsound := Registry.error?_eq_none_iff.1 hnone
    refine ⟨fun rule hrule name v hv => hsound.accepts_default hrule hv, ?_⟩
    intro name spec v hspec hdefault
    have hsurface : made.properties
        = (Surface.ofRules rules).properties :=
      congrArg Surface.properties
        (Definition.surface_ofRegistry ⟨rules⟩ config a)
    rw [hsurface] at hspec
    exact (hsound.coherent_surface hspec v hdefault).2

/-- A rule with a title that has a default and may be bound. -/
def titledRule : Rule :=
  (Rule.ofRender "a" fun _ _ _ globals =>
    ⟨.text "a", globals, [], []⟩).withProp "title"
      ((PropSpec.ofType .string).withDefault (.string "none")).asInput

/-- A rule with a default of null, which is sound, and behind it a
property that must be supplied and has a default, of another type. -/
def twiceWrongRule : Rule :=
  ((Rule.ofRender "b" fun _ _ _ globals =>
    ⟨.text "b", globals, [], []⟩).withProp "size"
      (PropSpec.unrestricted.withDefault .null)).withProp "width"
        ((PropSpec.ofType .number).withDefault (.string "wide")).asRequired

/-- Of two things wrong with one property, a name that is taken and one
that is empty, the first is reported. Without the rules from there on
nothing is wrong, and the title's default is a text. -/
theorem twice_wrong_reported_once :
    let rules := [titledRule, twiceWrongRule, titledRule]
    let unnamed := { titledRule with name := "" }
    let e := RegistryError.requiredWithDefault "b" "width"
    let made := Component.produced
      (Definition.ofRegistry ⟨[titledRule]⟩ .standard .start).1
    Registry.error? ⟨rules⟩ = some e ∧ Registry.FirstFault rules e
      ∧ Registry.error? ⟨rules ++ [unnamed]⟩ = some e
      ∧ Registry.checked [titledRule] = .ok ⟨[titledRule]⟩
      ∧ Registry.Sound [titledRule]
      ∧ titledRule.defaults.get? "title" = some (.string "none")
      ∧ (∃ spec, made.properties.get? "title" = some spec
        ∧ spec.type.accepts (.string "none") = true) := by
  intro rules unnamed e made
  have herror : Registry.error? ⟨rules⟩ = some e := rfl
  have hchecked : Registry.checked [titledRule] = .ok ⟨[titledRule]⟩ := rfl
  obtain ⟨-, hfirst, hmore, -, -, -⟩ := checking_reports_first_fault rules
  obtain ⟨hsound, -, -, -, -, hdefaults⟩ :=
    checking_reports_first_fault [titledRule]
  obtain ⟨-, hsurface⟩ := hdefaults _ .standard .start hchecked
  exact ⟨herror, (hfirst e).1 herror, hmore e [unnamed] herror, hchecked,
    hsound.1 rfl, rfl, _, rfl, hsurface "title" _ _ rfl rfl⟩

end RuledList
