/-
Notices: what the library tells whoever watches it run. Nothing that
the library computes depends on them.
-/
import RuledList.Host.InstanceId
import RuledList.Instance.Error

namespace RuledList

/-- How much a notice matters. -/
inductive Level where
  | warn
  | debug
  deriving DecidableEq

/-- Something worth telling. -/
inductive Notice where
  /-- No rule has the shape of the item at a position. -/
  | unmatchedItem (index : Nat) (keys : List String)
  /-- A render function tried to emit an event that nobody declared. -/
  | undeclaredEvent (name : String)
  /-- A rule declares the list of items as a property of its own. -/
  | reservedInput (rule : String)
  /-- A component whose globals are shared has a setup hook. -/
  | setupIgnored
  /-- An embedded component was given properties that do not mount. -/
  | embeddedNothing (component : String) (error : BindingError)
  /-- A request to replace the list of items brought no such list. -/
  | updateIgnored (event : String) (error : BindingError)
  /-- The setup hook of a new instance runs. -/
  | setupRuns
  | mounted (id : InstanceId)
  | unmounted (id : InstanceId)
  /-- Events of an embedded component, which nobody can hear. -/
  | embeddedEvents (component : String) (count : Nat)

namespace Notice

/-- How much a notice matters. -/
def level : Notice → Level
  | .unmatchedItem .. => .warn
  | .undeclaredEvent .. => .warn
  | .reservedInput .. => .warn
  | .setupIgnored => .warn
  | .embeddedNothing .. => .warn
  | .updateIgnored .. => .warn
  | .setupRuns => .debug
  | .mounted .. => .debug
  | .unmounted .. => .debug
  | .embeddedEvents .. => .debug

/-- A notice in words. -/
def message : Notice → String
  | .unmatchedItem index keys =>
    s!"no rule matches item {index} (keys: " ++
      (Shown.strings keys).text ++ "); skipping"
  | .undeclaredEvent name => "dropping undeclared event `" ++ name ++ "`"
  | .reservedInput rule =>
    "rule " ++ rule ++ ": input property `data` is reserved; ignoring"
  | .setupIgnored =>
    "setup hook ignored: functional components have no instance state"
  | .embeddedNothing component error =>
    component ++ ": " ++ error.message ++ "; rendering nothing"
  | .updateIgnored event error =>
    "ignoring `" ++ event ++ "`: " ++ error.message
  | .setupRuns => "running setup hook"
  | .mounted id => "mounted instance " ++ id.text
  | .unmounted id => "unmounted instance " ++ id.text
  | .embeddedEvents component count =>
    component ++ s!": dropped {count} embedded event(s)"

end Notice

end RuledList
