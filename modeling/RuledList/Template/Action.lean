/-
Actions: what a template does besides building a tree. Most actions read
or write the globals; two emit events; one only takes note of a value.
Every action has a result, and where actions are recorded the result is
recorded under the name of the action.
-/
import RuledList.Template.Expr

namespace RuledList.Template

/-- What is done to globals. -/
inductive GlobalsDeed where
  /-- Write an entry; the result is what stood there. -/
  | set
  | get
  /-- Remove an entry; the result is what stood there. -/
  | remove
  | contains
  /-- Remove everything. -/
  | clear
  | keys
  /-- The number of entries, and whether there are none. -/
  | extent
  /-- Look at an entry in place, writing null if it is absent. -/
  | touch
  /-- Add to an entry in place, as words that start over. -/
  | add
  /-- Append to an array in place; anything else becomes an array. -/
  | push

/-- What an action does. -/
inductive Deed where
  | globals (deed : GlobalsDeed)
  /-- Emit an event. -/
  | emit
  /-- Ask for a property to be bound. -/
  | bind
  /-- Take note of a value. -/
  | note
  /-- Do nothing. -/
  | idle

/-- An action: the name it is recorded under, what it does, the key it
does it to, and the value it does it with. -/
structure Action where
  name : String
  deed : Deed
  key : String
  value : Expr

namespace GlobalsDeed

/-- Work on an entry in place; the result is the entry afterwards. -/
def inPlace (g : Globals) (key : String) (f : Value → Value) :
    Finding × Globals :=
  let g := Globals.modify g key f
  (.ofValue? (g.get? key), g)

/-- The result of a deed, and the globals afterwards. -/
def apply (d : GlobalsDeed) (g : Globals) (key : String) (v : Value) :
    Finding × Globals :=
  match d with
  | .set => (.ofValue? (g.get? key), g.insert key v)
  | .get => (.ofValue? (g.get? key), g)
  | .remove => (.ofValue? (g.get? key), g.erase key)
  | .contains => (.flag (g.contains key), g)
  | .clear => (.nothing, Globals.fresh)
  | .keys => (.names g.keys, g)
  | .extent => (.extent g.size g.isEmpty, g)
  | .touch => inPlace g key id
  | .add => inPlace g key fun old =>
    .int (Number.wrap64 (old.toInt64?.getD 0 + v.toInt64?.getD 1))
  | .push => inPlace g key fun
    | .array items => .array (items ++ [v])
    | _ => .array [v]

end GlobalsDeed

namespace Action

/-- Attempt an emission, where events can be emitted. -/
def attempt (s : Scope) (event : Event) (r : Run) : Finding × Run :=
  match s.declared? with
  | none => (.nothing, r)
  | some declared =>
    (.flag (declared.contains event.name),
      { r with attempts := r.attempts ++ [event] })

/-- Perform an action: its result, and the run afterwards. -/
def perform (s : Scope) (a : Action) (r : Run) : Finding × Run :=
  let v := a.value.eval s r
  match a.deed with
  | .globals deed =>
    match r.globals? with
    | none => (.nothing, r)
    | some g =>
      let (finding, g) := deed.apply g a.key v
      (finding, { r with globals? := some g })
  | .emit => attempt s ⟨a.key, v⟩ r
  | .bind => attempt s ⟨Event.updateName a.key, v⟩ r
  | .note => (.value v, r)
  | .idle => (.nothing, r)

/-- Perform an action and record its result. -/
def record (s : Scope) (a : Action) (r : Run) : Run :=
  let (finding, r) := a.perform s r
  { r with observed := r.observed ++ [⟨a.name, finding⟩] }

/-- Perform and record several actions, in order. -/
def recordAll (s : Scope) (actions : List Action) (r : Run) : Run :=
  actions.foldl (fun r a => a.record s r) r

end Action

-- ========================================================== setup hooks

/-- The setup hook that performs actions. -/
def setupHook (actions : List Action) : SetupHook :=
  fun props attrs globals =>
    let r := Action.recordAll ⟨.setup attrs, props, []⟩ actions
      (.start (some globals))
    ⟨r.globals?.getD Globals.fresh, r.observed⟩

end RuledList.Template
