/-
Which values a rendered item sees, and which ones a wrapping component
is handed. An item sees its rule's defaults, overridden by what is bound
to the component, overridden by its own fields, and over everything its
ordinal under `id`. The list of items itself, `data`, is never among
them unless an item or a default brings a property of that name.
-/
import RuledList.Rule.Basic

namespace RuledList

/-- The property that carries the list of items. -/
def dataName : String := "data"

/-- The resolved property that carries an item's ordinal. -/
def ordinalName : String := "id"

/-- The properties of a map other than the list of items, in order. -/
def Props.withoutData (p : Props) : List (String × Value) :=
  p.entries.filter fun e => e.1 != dataName

/-- The properties that an item is rendered with. -/
def Rule.resolve (rule : Rule) (bound item : Props) (index : Nat) :
    Props :=
  ((rule.defaults.insertAll bound.withoutData).insertAll
    item.entries).insert ordinalName (.int index)

/-- The properties handed on to a wrapping component: what is bound,
then the attributes, both without the list of items. -/
def forwardedProps (bound attrs : Props) : Props :=
  OrdMap.ofList (bound.withoutData ++ attrs.withoutData)

end RuledList
