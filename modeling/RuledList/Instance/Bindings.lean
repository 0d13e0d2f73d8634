/-
Draining an instance's events. `takeEvents` hands all of them over.
`syncBindings` first applies those that ask for a property to be bound:
the list of items is replaced when the payload spells one, any other
declared property is bound to the payload. What it could not apply it
hands over, in order.
-/
import RuledList.Instance.Basic

namespace RuledList

/-- What applying events changes, and what it could not apply. -/
structure Sync where
  bound : Props
  data : List Props
  /-- The events not applied, in order. -/
  rest : List Event
  notices : List Notice

namespace Sync

/-- Leave an event to the listener. -/
def pass (s : Sync) (e : Event) : Sync := { s with rest := s.rest ++ [e] }

/-- Apply one event, or leave it to the listener. -/
def apply (surface : Surface) (s : Sync) (e : Event) : Sync :=
  match e.boundProperty? with
  | none => s.pass e
  | some name =>
    if name = dataName then
      match itemsOfValue e.payload with
      | .ok data => { s with data }
      | .error err =>
        { s.pass e with
          notices := s.notices ++ [.updateIgnored e.name err] }
    else if surface.properties.contains name then
      { s with bound := s.bound.insert name e.payload }
    else s.pass e

end Sync

namespace Instance

/-- Hand over all events. -/
def takeEvents (i : Instance) : List Event × Instance :=
  let (events, emitter) := i.emitter.drain
  (events, { i with emitter })

/-- Apply the events that ask for a binding and hand over the others. -/
def syncBindings (i : Instance) (a : Ambient) :
    List Event × Instance × Ambient :=
  let (events, emitter) := i.emitter.drain
  let s := events.foldl (Sync.apply i.definition.surface)
    ⟨i.bound, i.data, [], []⟩
  (s.rest, { i with bound := s.bound, data := s.data, emitter },
    a.tellAll s.notices)

end Instance

end RuledList
