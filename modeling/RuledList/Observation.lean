/-
What the actions of a render function, a setup hook or a component
report about themselves. Reports change nothing; they are a record, in
order, of which actions ran and what each of them found.
-/
import RuledList.Value.Text

namespace RuledList

/-- The result of one action. -/
inductive Finding where
  /-- Nothing to report. -/
  | nothing
  /-- The answer to a question. -/
  | flag (b : Bool)
  /-- A value that was found, replaced or computed. -/
  | value (v : Value)
  /-- A list of names. -/
  | names (names : List String)
  /-- A count, and whether it is zero. -/
  | extent (size : Nat) (isEmpty : Bool)

namespace Finding

/-- A value that may not be there. -/
def ofValue? : Option Value → Finding
  | none => .nothing
  | some v => .value v

end Finding

/-- An action by its name, with its result. -/
structure Observation where
  action : String
  finding : Finding

end RuledList
