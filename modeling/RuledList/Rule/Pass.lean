/-
Render passes. A pass goes through a list of items from first to last.
An item that some rule accepts is rendered by the first such rule; one
that no rule accepts contributes nothing, and its position is reported.
Ordinals count positions in the list, not rendered items.

A pass works on a `Pass` state: the globals, the queue of events, and
the notices and observations made so far. Each render call reads the
state that the calls before it left, and the events it tried to emit
are queued or refused (`Pass.offer`) before the next item is looked at.
-/
import RuledList.Notice
import RuledList.Rule.Registry
import RuledList.Rule.Resolve

namespace RuledList

/-- What a pass reads and changes as it goes. -/
structure Pass where
  globals : Globals
  emitter : Emitter
  notices : List Notice
  observed : List Observation

namespace Pass

/-- A pass that is about to begin. -/
def start (globals : Globals) (emitter : Emitter) : Pass :=
  ⟨globals, emitter, [], []⟩

/-- Offer an event to the queue: a declared name is queued, any other
is refused with a notice. -/
def offer (p : Pass) (event : Event) : Pass :=
  if p.emitter.isDeclared event.name then
    { p with emitter := p.emitter.push event }
  else { p with notices := p.notices ++ [.undeclaredEvent event.name] }

/-- Offer several events, in order. -/
def offerAll (p : Pass) (events : List Event) : Pass :=
  events.foldl offer p

/-- What a render call sees around it. -/
def surroundings (p : Pass) (attrs : Props) : Surroundings :=
  ⟨attrs, p.emitter.declared, p.emitter.pending⟩

/-- Render one item by a rule that accepts it. -/
def renderItem (p : Pass) (rule : Rule) (bound attrs item : Props)
    (index : Nat) : Node × Pass :=
  let out := rule.render (rule.resolve bound item index) index
    (p.surroundings attrs) p.globals
  let p := { p with globals := out.globals,
                    observed := p.observed ++ out.observed }
  (out.node, p.offerAll out.attempts)

/-- The trees and the unmatched positions of a list of items, the first
of which stands at position `index`, and the state afterwards. -/
def renderFrom (registry : Registry) (bound attrs : Props) :
    (index : Nat) → List Props → Pass → List Node × List Nat × Pass
  | _, [], p => ([], [], p)
  | index, item :: rest, p =>
    match registry.select? item with
    | none =>
      let p := { p with
        notices := p.notices ++ [.unmatchedItem index item.keys] }
      let (nodes, unmatched, p) :=
        renderFrom registry bound attrs (index + 1) rest p
      (nodes, index :: unmatched, p)
    | some rule =>
      let (node, p) := p.renderItem rule bound attrs item index
      let (nodes, unmatched, p) :=
        renderFrom registry bound attrs (index + 1) rest p
      (node :: nodes, unmatched, p)

/-- Render a whole list of items. -/
def renderItems (registry : Registry) (bound attrs : Props)
    (data : List Props) (p : Pass) : List Node × List Nat × Pass :=
  renderFrom registry bound attrs 0 data p

end Pass

end RuledList
