/-
The queue between render functions and whoever listens. An emitter
knows the names that were declared, takes in events with such names,
and refuses the rest; a drain hands over everything queued, oldest
first, and leaves the queue empty.
-/
import RuledList.Event.Basic

namespace RuledList

/-- A queue of events with declared names. -/
structure Emitter where
  /-- The names that may be emitted; a name may be listed twice. -/
  declared : List String
  /-- What waits, oldest first. -/
  queue : List Event

/-- The number of different names in a list. -/
def distinctCount (names : List String) : Nat := names.eraseDups.length

namespace Emitter

/-- What an inspection text says of an emitter with so many different
names and so many events waiting. -/
def countsShown (declared pending : Nat) : Shown :=
  .struct "EventEmitter"
    [("declared", .count declared), ("pending", .count pending)]

/-- An emitter with nothing queued. -/
def ofNames (declared : List String) : Emitter := ⟨declared, []⟩

/-- Whether a name may be emitted. -/
def isDeclared (e : Emitter) (name : String) : Bool :=
  e.declared.contains name

/-- The number of different names that may be emitted. -/
def declaredCount (e : Emitter) : Nat := distinctCount e.declared

/-- The number of events that wait. -/
def pending (e : Emitter) : Nat := e.queue.length

/-- Queue an event whose name is declared; leave the queue alone for any
other. -/
def push (e : Emitter) (event : Event) : Emitter :=
  if e.isDeclared event.name then
    { e with queue := e.queue ++ [event] }
  else e

/-- Hand over what waits. -/
def drain (e : Emitter) : List Event × Emitter :=
  (e.queue, { e with queue := [] })

/-- What an inspection text says of an emitter. -/
def shown (e : Emitter) : Shown := countsShown e.declaredCount e.pending

end Emitter

end RuledList
