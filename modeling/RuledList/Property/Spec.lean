/-
The specification of one declared property: its type, the default that
stands in when nobody supplies a value, whether it must be supplied,
and whether it may be bound from outside the component.

A default of null is a default: it differs from having none.
-/
import RuledList.Property.Type
import RuledList.Value.Text

namespace RuledList

/-- What a rule declares about one of its properties. -/
structure PropSpec where
  type : PropType
  default? : Option Value
  required : Bool
  input : Bool

/-- Specifications by property name, in order of declaration. -/
abbrev PropSpecs := OrdMap PropSpec

namespace PropSpec

-- ============================================================= building

/-- A specification of a type, with nothing else said. -/
def ofType (t : PropType) : PropSpec := ⟨t, none, false, false⟩

/-- The specification that says nothing: any value, or none at all. -/
def unrestricted : PropSpec := ofType .any

/-- With a default, null included. -/
def withDefault (s : PropSpec) (v : Value) : PropSpec :=
  { s with default? := some v }

/-- Marked as one that must be supplied. -/
def asRequired (s : PropSpec) : PropSpec := { s with required := true }

/-- Marked as one that may be bound from outside. -/
def asInput (s : PropSpec) : PropSpec := { s with input := true }

-- ============================================================= equality

/-- Equality of specifications, with values compared as values are. -/
def same (a b : PropSpec) : Bool :=
  a.type == b.type && a.required == b.required && a.input == b.input &&
    match a.default?, b.default? with
    | none, none => true
    | some v, some w => v.same w
    | _, _ => false

-- ======================================================= inspection text

/-- What an inspection text says of a specification. -/
def shown (s : PropSpec) : Shown :=
  .struct "PropSpec"
    [("ty", .word s.type.title),
      ("default", .option (s.default?.map Value.shown)),
      ("required", .flag s.required),
      ("input", .flag s.input)]

end PropSpec

/-- What an inspection text says of a map of specifications. -/
def PropSpecs.shown (specs : PropSpecs) : Shown :=
  .map (specs.entries.map fun e => (e.1, e.2.shown))

end RuledList
