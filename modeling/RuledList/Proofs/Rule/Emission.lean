/-
What a render pass does to the queue of events. Every emission that a
render function attempts is made in some state of the pass, and that
state alone decides about it: a declared name is queued at the end and
the call is answered with true; any other name is answered with false,
costs one notice, and changes nothing else.

`Pass.emissionsFrom` lists the emissions of a pass in the order in which
they are made, each with the state it finds. It follows the recursion of
`Pass.renderFrom`, so what holds of the list is proved along with the
pass: the queue afterwards is the queue before with the accepted
emissions behind it (`Pass.renderFrom_spec`), and no emission ever finds
other declared names than the pass began with.
-/
import RuledList.Rule.Pass

namespace RuledList

-- ======================================================== one emission

namespace Pass

/-- An event with a declared name is queued, and nothing else changes. -/
theorem offer_declared {p : Pass} {e : Event}
    (h : p.emitter.isDeclared e.name = true) :
    p.offer e
      = { p with emitter :=
          { p.emitter with queue := p.emitter.queue ++ [e] } } := by
  unfold offer Emitter.push
  rw [if_pos h, if_pos h]

/-- An event with any other name costs a notice, and nothing else
changes. -/
theorem offer_undeclared {p : Pass} {e : Event}
    (h : p.emitter.isDeclared e.name = false) :
    p.offer e
      = { p with notices := p.notices ++ [.undeclaredEvent e.name] } := by
  unfold offer
  rw [h]
  rfl

theorem declared_offer (p : Pass) (e : Event) :
    (p.offer e).emitter.declared = p.emitter.declared := by
  cases h : p.emitter.isDeclared e.name with
  | true => rw [offer_declared h]
  | false => rw [offer_undeclared h]

theorem globals_offerAll (events : List Event) : ∀ p : Pass,
    (p.offerAll events).globals = p.globals := by
  induction events with
  | nil => intro p; rfl
  | cons e rest ih =>
      intro p
      refine (ih (p.offer e)).trans ?_
      unfold offer
      split <;> rfl

/-- Of several events those with declared names are queued. -/
theorem emitter_offerAll (events : List Event) : ∀ p : Pass,
    (p.offerAll events).emitter
      = { p.emitter with queue := p.emitter.queue
          ++ events.filter fun e => p.emitter.isDeclared e.name } := by
  induction events with
  | nil =>
      intro p
      show p.emitter = { p.emitter with queue := p.emitter.queue ++ [] }
      rw [List.append_nil]
  | cons e rest ih =>
      intro p
      refine (ih (p.offer e)).trans ?_
      cases h : p.emitter.isDeclared e.name with
      | true =>
          have hkept : (e :: rest).filter
                (fun e => p.emitter.isDeclared e.name)
              = e :: rest.filter fun e => p.emitter.isDeclared e.name :=
            List.filter_cons_of_pos h
          rw [offer_declared h, hkept]
          show Emitter.mk _ (p.emitter.queue ++ [e] ++ _) = _
          rw [List.append_assoc]
          rfl
      | false =>
          have hdropped : (e :: rest).filter
                (fun e => p.emitter.isDeclared e.name)
              = rest.filter fun e => p.emitter.isDeclared e.name :=
            List.filter_cons_of_neg (by rw [h]; exact Bool.false_ne_true)
          rw [offer_undeclared h, hdropped]

end Pass

/-- An emission: an event, and the state of the pass in which the
emitting call is made. -/
structure Emission where
  before : Pass
  event : Event

namespace Emission

/-- What the emitting call is answered: whether the name is declared. A
render function finds the declared names in its surroundings. -/
def answer (m : Emission) : Bool :=
  m.before.emitter.isDeclared m.event.name

/-- The state of the pass after the call. -/
def after (m : Emission) : Pass := m.before.offer m.event

/-- The events whose emission was answered with true, in order. -/
def accepted (ms : List Emission) : List Event :=
  (ms.filter answer).map event

theorem accepted_append (ms ns : List Emission) :
    accepted (ms ++ ns) = accepted ms ++ accepted ns := by
  unfold accepted
  rw [List.filter_append, List.map_append]

end Emission

-- ============================================================= a pass

namespace Pass

open Emission (accepted accepted_append)

/-- The emissions of one render call, in order. -/
def emissions : Pass → List Event → List Emission
  | _, [] => []
  | p, e :: rest => ⟨p, e⟩ :: (p.offer e).emissions rest

/-- What a render call leaves behind, and the state in which it makes its
emissions. -/
def called (p : Pass) (rule : Rule) (bound attrs item : Props)
    (index : Nat) : Rendered × Pass :=
  let out := rule.render (rule.resolve bound item index) index
    (p.surroundings attrs) p.globals
  (out, { p with globals := out.globals,
                 observed := p.observed ++ out.observed })

/-- The emissions of a pass over a list of items, in order. -/
def emissionsFrom (registry : Registry) (bound attrs : Props) :
    (index : Nat) → List Props → Pass → List Emission
  | _, [], _ => []
  | index, item :: rest, p =>
    match registry.select? item with
    | none =>
      emissionsFrom registry bound attrs (index + 1) rest
        { p with notices := p.notices ++ [.unmatchedItem index item.keys] }
    | some rule =>
      let (out, q) := p.called rule bound attrs item index
      q.emissions out.attempts
        ++ emissionsFrom registry bound attrs (index + 1) rest
          (p.renderItem rule bound attrs item index).2

/-- A render call offers its attempts in the state it leaves. -/
theorem renderItem_eq_offerAll (p : Pass) (rule : Rule)
    (bound attrs item : Props) (index : Nat) :
    (p.renderItem rule bound attrs item index).2
      = (p.called rule bound attrs item index).2.offerAll
          (p.called rule bound attrs item index).1.attempts := rfl

/-- Emissions leave the declared names alone, find no others, and put
the accepted events behind the queue. -/
theorem emissions_spec (events : List Event) : ∀ p : Pass,
    (p.offerAll events).emitter.declared = p.emitter.declared
      ∧ (p.offerAll events).emitter.queue
          = p.emitter.queue ++ accepted (p.emissions events)
      ∧ ∀ m ∈ p.emissions events,
          m.before.emitter.declared = p.emitter.declared := by
  induction events with
  | nil =>
      intro p
      refine ⟨rfl, ?_, fun m hm => absurd hm List.not_mem_nil⟩
      exact (List.append_nil _).symm
  | cons e rest ih =>
      intro p
      obtain ⟨hdecl, hqueue, hfound⟩ := ih (p.offer e)
      rw [declared_offer] at hdecl hfound
      refine ⟨hdecl, ?_, fun m hm => ?_⟩
      · show ((p.offer e).offerAll rest).emitter.queue = _
        rw [hqueue]
        show _ = p.emitter.queue
          ++ accepted ([⟨p, e⟩] ++ (p.offer e).emissions rest)
        rw [accepted_append, ← List.append_assoc]
        congr 1
        cases h : p.emitter.isDeclared e.name with
        | true =>
            have hyes : accepted [⟨p, e⟩] = [e] := by
              simp [accepted, Emission.answer, h]
            rw [offer_declared h, hyes]
        | false =>
            have hno : accepted [⟨p, e⟩] = [] := by
              simp [accepted, Emission.answer, h]
            rw [offer_undeclared h, hno, List.append_nil]
      · rcases List.mem_cons.1 hm with rfl | hm
        · rfl
        · exact hfound m hm

/-- A pass leaves the declared names alone, its emissions find no
others, and the accepted ones stand behind the queue afterwards. -/
theorem renderFrom_spec (registry : Registry) (bound attrs : Props)
    (data : List Props) : ∀ (index : Nat) (p : Pass),
    let out := (renderFrom registry bound attrs index data p).2.2
    let ms := emissionsFrom registry bound attrs index data p
    out.emitter.declared = p.emitter.declared
      ∧ out.emitter.queue = p.emitter.queue ++ accepted ms
      ∧ ∀ m ∈ ms, m.before.emitter.declared = p.emitter.declared := by
  induction data with
  | nil =>
      intro index p
      refine ⟨rfl, ?_, fun m hm => absurd hm List.not_mem_nil⟩
      exact (List.append_nil _).symm
  | cons item rest ih =>
      intro index p
      unfold renderFrom emissionsFrom
      cases registry.select? item with
      | none => exact ih (index + 1) _
      | some rule =>
          obtain ⟨hdecl₁, hqueue₁, hfound₁⟩ := emissions_spec
            (p.called rule bound attrs item index).1.attempts
            (p.called rule bound attrs item index).2
          obtain ⟨hdecl₂, hqueue₂, hfound₂⟩ := ih (index + 1)
            (p.renderItem rule bound attrs item index).2
          rw [renderItem_eq_offerAll] at hdecl₂ hqueue₂ hfound₂
          refine ⟨hdecl₂.trans hdecl₁, ?_, fun m hm => ?_⟩
          · rw [accepted_append, ← List.append_assoc]
            exact hqueue₂.trans (congrArg (· ++ _) hqueue₁)
          · rcases List.mem_append.1 hm with hm | hm
            · exact hfound₁ m hm
            · exact (hfound₂ m hm).trans hdecl₁

end Pass

end RuledList
