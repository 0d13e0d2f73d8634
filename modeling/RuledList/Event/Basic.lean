/-
Events signalled upward by render functions. An event whose name is
`update:` followed by a property asks the outside to bind that property
to the payload; the property's name is whatever follows the mark, be it
empty or marked itself.
-/
import RuledList.Value.Text

namespace RuledList

/-- What follows a mark at the head of a list of characters. -/
def stripMark? : List Char → List Char → Option (List Char)
  | [], cs => some cs
  | _ :: _, [] => none
  | m :: ms, c :: cs => if m = c then stripMark? ms cs else none

theorem stripMark?_append (mark cs : List Char) :
    stripMark? mark (mark ++ cs) = some cs := by
  induction mark with
  | nil => cases cs <;> rfl
  | cons m ms ih => simp [stripMark?, ih]

/-- A mark is stripped from what it stands before, and from nothing
else. -/
theorem stripMark?_eq_some_iff {mark cs rest : List Char} :
    stripMark? mark cs = some rest ↔ cs = mark ++ rest := by
  constructor
  · intro h
    induction mark generalizing cs with
    | nil =>
        cases cs <;> exact Option.some.inj h
    | cons m ms ih =>
        cases cs with
        | nil => cases h
        | cons c cs =>
            unfold stripMark? at h
            split at h
            · next hc => rw [hc, ih h, List.cons_append]
            · cases h
  · intro h
    subst h
    exact stripMark?_append mark rest

/-- An event: a name and a payload. -/
structure Event where
  name : String
  payload : Value

namespace Event

/-- The mark of an event that asks for a property to be bound. -/
def updateMark : String := "update:"

/-- The name of the event that asks for a property to be bound. -/
def updateName (property : String) : String := updateMark ++ property

/-- The property that an event asks to bind, if it asks for one. -/
def boundProperty? (e : Event) : Option String :=
  (stripMark? updateMark.toList e.name.toList).map String.ofList

/-- An event asks for a property to be bound exactly when it has the name
of the event that does, whatever characters the property's name is made
of. -/
theorem boundProperty?_eq_some_iff {e : Event} {property : String} :
    e.boundProperty? = some property ↔ e.name = updateName property := by
  unfold boundProperty? updateName
  rw [Option.map_eq_some_iff]
  constructor
  · intro h
    obtain ⟨cs, hcs, rfl⟩ := h
    apply String.toList_inj.1
    rw [String.toList_append, String.toList_ofList]
    exact stripMark?_eq_some_iff.1 hcs
  · intro h
    refine ⟨property.toList, ?_, String.ofList_toList⟩
    rw [h, String.toList_append]
    exact stripMark?_append _ _

@[simp] theorem boundProperty?_updateName (property : String) (v : Value) :
    boundProperty? ⟨updateName property, v⟩ = some property :=
  boundProperty?_eq_some_iff.2 rfl

/-- Different properties have different update events. -/
theorem updateName_inj {p q : String} :
    updateName p = updateName q ↔ p = q := by
  refine ⟨fun h => ?_, congrArg updateName⟩
  have hq : boundProperty? ⟨updateName p, .null⟩ = some q :=
    boundProperty?_eq_some_iff.2 h
  rw [boundProperty?_updateName] at hq
  exact Option.some.inj hq

/-- Equality of events, with payloads compared as values are. -/
def same (a b : Event) : Bool :=
  a.name == b.name && a.payload.same b.payload

/-- What an inspection text says of an event. -/
def shown (e : Event) : Shown :=
  .struct "Event" [("name", .string e.name), ("payload", e.payload.shown)]

end Event

end RuledList
