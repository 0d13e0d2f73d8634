/-
Names of mounted instances. An identifier is a slot together with the
version of the slot's tenant, so that a slot that is used again gives
out a name that was never given out before. The null identifier names
nothing.
-/
import RuledList.Shown

namespace RuledList

/-- The name of a mounted instance. -/
inductive InstanceId where
  | null
  | slot (index version : Nat)
  deriving DecidableEq

namespace InstanceId

/-- What an inspection text says of an identifier. -/
def shown : InstanceId → Shown
  | .null => .call "InstanceId" [.word "null"]
  | .slot index version =>
    .call "InstanceId" [.word s!"{index}v{version}"]

/-- The inspection text of an identifier. -/
def text (id : InstanceId) : String := id.shown.text

end InstanceId

end RuledList
