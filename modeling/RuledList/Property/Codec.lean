/-
Property specifications as values. Written out, a specification is an
object with four fields, the default left out when there is none. Read
back, it may also be an array of the fields in that order, fields may be
missing, fields that mean nothing here are passed over, and a type may
be a one-field object whose name is the type and whose value is null.

One thing does not survive: reading takes a default of null for no
default at all.
-/
import RuledList.Property.Spec

namespace RuledList

namespace PropType

/-- The type that a value spells. -/
def ofValue? : Value → Option PropType
  | .string s => ofName? s
  | .object [(s, .null)] => ofName? s
  | _ => none

end PropType

namespace PropSpec

-- ============================================================== writing

/-- A specification as an object. -/
def toValue (s : PropSpec) : Value :=
  .object <|
    [("type", .string s.type.name)] ++
    (match s.default? with
      | some v => [("default", v)]
      | none => []) ++
    [("required", .bool s.required), ("input", .bool s.input)]

-- ============================================================== reading

/-- A default: null is none. -/
def defaultOfValue : Value → Option Value
  | .null => none
  | v => some v

/-- A flag: a truth value and nothing else. -/
def flagOfValue? : Value → Option Bool
  | .bool b => some b
  | _ => none

/-- The specification that up to four fields make, each of which may be
missing. -/
def ofFields? (type default required input : Option Value) :
    Option PropSpec := do
  let type ← match type with
    | some v => PropType.ofValue? v
    | none => some .any
  let required ← match required with
    | some v => flagOfValue? v
    | none => some false
  let input ← match input with
    | some v => flagOfValue? v
    | none => some false
  some ⟨type, default.bind defaultOfValue, required, input⟩

/-- The specification that a value spells. -/
def ofValue? : Value → Option PropSpec
  | .object fields =>
    ofFields? (findEntry "type" fields) (findEntry "default" fields)
      (findEntry "required" fields) (findEntry "input" fields)
  | .array items =>
    if items.length ≤ 4 then
      ofFields? items[0]? items[1]? items[2]? items[3]?
    else none
  | _ => none

end PropSpec

end RuledList
