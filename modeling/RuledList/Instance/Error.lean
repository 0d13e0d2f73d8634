/-
What can go wrong when properties are bound to an instance.
-/
import RuledList.Value.Text

namespace RuledList

/-- Why properties were not bound. -/
inductive BindingError where
  /-- The list of items is given by something that is no list. -/
  | dataNotArray (given : Value)
  /-- An entry of the list of items is no object. -/
  | itemNotObject (index : Nat)
  /-- No rule offers the property to the outside. -/
  | notBindable (name : String)

namespace BindingError

/-- The error in words. -/
def message : BindingError → String
  | .dataNotArray given => "`data` must be an array, got " ++ given.text
  | .itemNotObject index => s!"data item {index} is not an object"
  | .notBindable name =>
    "`" ++ name ++ "` is not a bindable input property"

end BindingError

end RuledList
