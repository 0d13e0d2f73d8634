/-
Property values: JSON-shaped data. The fields of an object are ordered
and, in every value that a reader or a rule builds, distinct by name
(`Value.Tidy`); equality (`Value.same`) ignores their order, compares
arrays place by place, and compares numbers within their kind.
-/
import RuledList.Number.Basic
import RuledList.OrdMap.Basic

namespace RuledList

/-- A property value. -/
inductive Value where
  | null
  | bool (b : Bool)
  | number (n : Number)
  | string (s : String)
  | array (items : List Value)
  | object (fields : List (String × Value))
  deriving Inhabited

namespace Value

-- ======================================================= building values

/-- A whole number. -/
def int (n : Int) : Value := .number (.int n)

/-- The value that marks a rule's name as present in an item that has
nothing else to say under it. -/
def present : Value := .bool true

-- ========================================================= well-formedness

mutual

/-- Whether no object inside a value repeats a name. -/
def Tidy : Value → Prop
  | .array items => TidyItems items
  | .object fields => (entryNames fields).Nodup ∧ TidyFields fields
  | _ => True
termination_by structural v => v

/-- Whether every item of an array is tidy. -/
def TidyItems : List Value → Prop
  | [] => True
  | v :: rest => Tidy v ∧ TidyItems rest
termination_by structural vs => vs

/-- Whether what stands under every name is tidy. -/
def TidyFields : List (String × Value) → Prop
  | [] => True
  | (_, v) :: rest => Tidy v ∧ TidyFields rest
termination_by structural fs => fs

end

-- ============================================================= equality

mutual

/-- Equality of values, blind to the order of object fields. -/
def same : Value → Value → Bool
  | .null, .null => true
  | .bool a, .bool b => a == b
  | .number a, .number b => a.same b
  | .string a, .string b => a == b
  | .array a, .array b => sameItems a b
  | .object a, .object b => a.length == b.length && sameFields a b
  | _, _ => false
termination_by structural v => v

/-- Equality of arrays, place by place. -/
def sameItems : List Value → List Value → Bool
  | [], [] => true
  | v :: vs, w :: ws => same v w && sameItems vs ws
  | _, _ => false
termination_by structural vs => vs

/-- Whether every field of the first object is found in the second with
an equal value. Together with equal counts this is equality of objects
with distinct names. -/
def sameFields : List (String × Value) → List (String × Value) → Bool
  | [], _ => true
  | (k, v) :: rest, other =>
    (match findEntry k other with
      | some w => same v w
      | none => false) && sameFields rest other
termination_by structural fs => fs

end

-- ============================================================== readings

/-- A value read as a signed 64-bit word, when it is one. -/
def toInt64? : Value → Option Int
  | .number n => n.toInt64?
  | _ => none

end Value

-- ============================================================ properties

/-- A property map: values under distinct names, in the order in which
they were written. -/
abbrev Props := OrdMap Value

namespace Props

/-- The property map that an object value holds; no other value holds
one. -/
def ofValue? : Value → Option Props
  | .object fields => some (OrdMap.ofList fields)
  | _ => none

/-- A property map as an object value. -/
def toValue (p : Props) : Value := .object p.entries

/-- Equality of property maps, blind to order at every depth. -/
def same (a b : Props) : Bool := a.sameBy Value.same b

end Props

end RuledList
