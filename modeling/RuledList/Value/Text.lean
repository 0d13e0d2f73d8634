/-
The two texts of a value. Its JSON text is compact and keeps the order
of fields; it is what attributes, messages and computed texts show. Its
inspection text names the kind of every value it meets.
-/
import RuledList.Value.Basic
import RuledList.Text.Escaped
import RuledList.Shown

namespace RuledList.Value

-- ============================================================ JSON text

mutual

/-- The compact JSON text of a value. -/
def text : Value → String
  | .null => "null"
  | .bool b => if b then "true" else "false"
  | .number n => n.text
  | .string s => Text.escaped s
  | .array items => "[" ++ ",".intercalate (itemTexts items) ++ "]"
  | .object fields =>
    "\x7b" ++ ",".intercalate (fieldTexts fields) ++ "\x7d"
termination_by structural v => v

/-- The texts of an array's items. -/
def itemTexts : List Value → List String
  | [] => []
  | v :: rest => text v :: itemTexts rest
termination_by structural vs => vs

/-- The texts of an object's fields. -/
def fieldTexts : List (String × Value) → List String
  | [] => []
  | (k, v) :: rest =>
    (Text.escaped k ++ ":" ++ text v) :: fieldTexts rest
termination_by structural fs => fs

end

/-- A value as running text: a string is itself, anything else its JSON
text. -/
def plainText : Value → String
  | .string s => s
  | v => text v

-- ====================================================== inspection text

mutual

/-- What an inspection text says of a value. -/
def shown : Value → Shown
  | .null => .word "Null"
  | .bool b => .call "Bool" [.flag b]
  | .number n => .call "Number" [.word n.text]
  | .string s => .call "String" [.string s]
  | .array items => .labelled "Array" (.list (itemsShown items))
  | .object fields => .labelled "Object" (.map (fieldsShown fields))
termination_by structural v => v

/-- What is said of an array's items. -/
def itemsShown : List Value → List Shown
  | [] => []
  | v :: rest => shown v :: itemsShown rest
termination_by structural vs => vs

/-- What is said of an object's fields. -/
def fieldsShown : List (String × Value) → List (String × Shown)
  | [] => []
  | (k, v) :: rest => (k, shown v) :: fieldsShown rest
termination_by structural fs => fs

end

end RuledList.Value

namespace RuledList.Props

/-- What an inspection text says of a property map. -/
def shown (p : Props) : Shown := .map (Value.fieldsShown p.entries)

end RuledList.Props
