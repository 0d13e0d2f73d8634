/-
The types that a property may be declared with. A type is a test on
values: five of the six ask for one kind of value, and `any` asks for
nothing, so that null has only that one type.
-/
import RuledList.Value.Basic

namespace RuledList

/-- The declared type of a property. -/
inductive PropType where
  | string
  | number
  | boolean
  | array
  | object
  | any
  deriving DecidableEq, Repr

namespace PropType

/-- Every type, in the order in which they are listed. -/
def all : List PropType := [string, number, boolean, array, object, any]

/-- Whether a value has this type. -/
def accepts : PropType → Value → Bool
  | .string, .string _ => true
  | .number, .number _ => true
  | .boolean, .bool _ => true
  | .array, .array _ => true
  | .object, .object _ => true
  | .any, _ => true
  | _, _ => false

/-- The name of a type in specifications and messages. -/
def name : PropType → String
  | .string => "string"
  | .number => "number"
  | .boolean => "boolean"
  | .array => "array"
  | .object => "object"
  | .any => "any"

/-- The type that a name stands for. -/
def ofName? (s : String) : Option PropType :=
  all.find? fun t => t.name == s

theorem ofName?_name (t : PropType) : ofName? t.name = some t := by
  cases t <;> rfl

/-- The name of a type in inspection texts. -/
def title : PropType → String
  | .string => "String"
  | .number => "Number"
  | .boolean => "Boolean"
  | .array => "Array"
  | .object => "Object"
  | .any => "Any"

end PropType

end RuledList
