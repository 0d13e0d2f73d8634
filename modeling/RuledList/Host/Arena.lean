/-
Arenas: slots that are filled, emptied and filled again. The slot that
was emptied last is filled first, and a slot's version grows with every
tenant, so no tenant ever answers to the name of an earlier one. Slots
count from one, versions are odd and count from one.
-/
import RuledList.Host.InstanceId

namespace RuledList

/-- One place in an arena. -/
structure Slot (α : Type) where
  /-- The version of the present tenant, or of the next one. -/
  version : Nat
  content? : Option α

/-- Places with their tenants. -/
structure Arena (α : Type) where
  /-- The slots in order; the first is number one. -/
  slots : List (Slot α)
  /-- The numbers of the empty slots, last emptied first. -/
  free : List Nat

namespace Arena

variable {α : Type}

/-- An arena without slots. -/
def empty : Arena α := ⟨[], []⟩

/-- The slot with a number. -/
def slot? (a : Arena α) (index : Nat) : Option (Slot α) :=
  if index = 0 then none else a.slots[index - 1]?

/-- The tenant with a name. -/
def get? (a : Arena α) : InstanceId → Option α
  | .null => none
  | .slot index version =>
    match a.slot? index with
    | some s => if s.version = version then s.content? else none
    | none => none

/-- Whether a name names a tenant. -/
def contains (a : Arena α) (id : InstanceId) : Bool := (a.get? id).isSome

/-- Replace the slot with a number. -/
def putSlot (a : Arena α) (index : Nat) (s : Slot α) : Arena α :=
  { a with slots := a.slots.set (index - 1) s }

/-- Take in a tenant; its name comes first. -/
def insert (a : Arena α) (x : α) : InstanceId × Arena α :=
  match a.free with
  | index :: free =>
    let version := ((a.slot? index).map Slot.version).getD 1
    (.slot index version,
      { a.putSlot index ⟨version, some x⟩ with free })
  | [] =>
    (.slot (a.slots.length + 1) 1,
      { a with slots := a.slots ++ [⟨1, some x⟩] })

/-- Let a tenant go; it comes first. -/
def remove (a : Arena α) (id : InstanceId) : Option (α × Arena α) :=
  match id, a.get? id with
  | .slot index version, some x =>
    some (x, { a.putSlot index ⟨version + 2, none⟩ with
      free := index :: a.free })
  | _, _ => none

/-- Replace a tenant under its name; a name that names nobody changes
nothing. -/
def replace (a : Arena α) (id : InstanceId) (x : α) : Arena α :=
  match id, a.get? id with
  | .slot index version, some _ => a.putSlot index ⟨version, some x⟩
  | _, _ => a

/-- The names of the tenants from a slot number on. -/
def idsFrom (index : Nat) : List (Slot α) → List InstanceId
  | [] => []
  | s :: rest =>
    if s.content?.isSome then
      .slot index s.version :: idsFrom (index + 1) rest
    else idsFrom (index + 1) rest

/-- The names of all tenants, in the order of their slots. -/
def ids (a : Arena α) : List InstanceId := idsFrom 1 a.slots

/-- The number of tenants. -/
def size (a : Arena α) : Nat := a.ids.length

end Arena

end RuledList
