/-
Registries: rules in order, the first that fits wins. A registry may be
built from any rules. Checking one (`Registry.checked`) reports the first
thing wrong with it, in order of registration: an empty name, a name
that an earlier rule has, and within one rule the first property whose
default contradicts its declaration.
-/
import RuledList.Rule.Basic

namespace RuledList

/-- Rules in order of registration. -/
structure Registry where
  rules : List Rule

/-- What can be wrong with a registry. -/
inductive RegistryError where
  /-- The rule at a position has no name. -/
  | emptyName (index : Nat)
  /-- Two rules have one name. -/
  | duplicateName (name : String)
  /-- A property that must be supplied has a default. -/
  | requiredWithDefault (rule property : String)
  /-- A default does not have the type of its property. -/
  | defaultTypeMismatch (rule property : String) (expected : PropType)
  deriving DecidableEq

namespace RegistryError

/-- The error in words. -/
def message : RegistryError → String
  | .emptyName index =>
    s!"rule at position {index} has an empty name"
  | .duplicateName name => "duplicate rule name: " ++ name
  | .requiredWithDefault rule property =>
    "rule " ++ rule ++ ": required property `" ++ property ++
      "` declares a default"
  | .defaultTypeMismatch rule property expected =>
    "rule " ++ rule ++ ": default of `" ++ property ++ "` is not a " ++
      expected.name

/-- What an inspection text says of the error. -/
def shown : RegistryError → Shown
  | .emptyName index => .struct "EmptyName" [("index", .count index)]
  | .duplicateName name => .call "DuplicateName" [.string name]
  | .requiredWithDefault rule property =>
    .struct "RequiredWithDefault"
      [("rule", .string rule), ("property", .string property)]
  | .defaultTypeMismatch rule property expected =>
    .struct "DefaultTypeMismatch"
      [("rule", .string rule), ("property", .string property),
        ("expected", .word expected.title)]

end RegistryError

namespace Registry

-- ============================================================= selection

/-- The first rule whose shape an item has. -/
def select? (r : Registry) (item : Props) : Option Rule :=
  r.rules.find? fun rule => rule.accepts item

/-- The first rule with a name. -/
def get? (r : Registry) (name : String) : Option Rule :=
  r.rules.find? fun rule => rule.name == name

/-- The number of rules. -/
def size (r : Registry) : Nat := r.rules.length

-- ============================================================== checking

/-- The contradiction in one declared property, if there is one. A
property without a default contradicts nothing. -/
def specError? (rule : String) (property : String) (spec : PropSpec) :
    Option RegistryError :=
  match spec.default? with
  | none => none
  | some v =>
    if spec.required then some (.requiredWithDefault rule property)
    else if spec.type.accepts v then none
    else some (.defaultTypeMismatch rule property spec.type)

/-- The first contradiction among the declared properties of a rule. -/
def propsError? (rule : Rule) : Option RegistryError :=
  rule.props.entries.findSome? fun e => specError? rule.name e.1 e.2

/-- The first thing wrong with the rules from a position on, given the
names of the rules before it. -/
def errorFrom? : (seen : List String) → (index : Nat) → List Rule →
    Option RegistryError
  | _, _, [] => none
  | seen, index, rule :: rest =>
    if rule.name = "" then some (.emptyName index)
    else if rule.name ∈ seen then some (.duplicateName rule.name)
    else
      match propsError? rule with
      | some e => some e
      | none => errorFrom? (rule.name :: seen) (index + 1) rest

/-- The first thing wrong with a registry, if anything is. -/
def error? (r : Registry) : Option RegistryError :=
  errorFrom? [] 0 r.rules

/-- Build a registry that nothing is wrong with. -/
def checked (rules : List Rule) : Except RegistryError Registry :=
  match error? ⟨rules⟩ with
  | some e => .error e
  | none => .ok ⟨rules⟩

end Registry

end RuledList
