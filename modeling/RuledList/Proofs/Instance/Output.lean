/-
What the output of a render pass depends on. A render function is given
the resolved properties, the attributes, the globals, the declared names
and the number of waiting events; of the queue it sees no more than that
number. So two passes that agree on these render the same trees and
report the same positions, and they still agree afterwards
(`Pass.Alike.renderFrom`). The trees of two instances may then differ in
the handles of their references, which depend on how many were given out
before, and in nothing else.
-/
import RuledList.Instance.Render
import RuledList.Proofs.Node.Handles
import RuledList.Proofs.Rule.Emission

namespace RuledList

/-- A result without the handles of references. -/
def RenderOutput.anonymous (out : RenderOutput) : RenderOutput :=
  { out with node := out.node.anonymous }

namespace Pass

/-- Two passes that no render function can tell apart. -/
structure Alike (p q : Pass) : Prop where
  globals : p.globals = q.globals
  declared : p.emitter.declared = q.emitter.declared
  pending : p.emitter.pending = q.emitter.pending

theorem Alike.offer {p q : Pass} (h : Alike p q) (e : Event) :
    Alike (p.offer e) (q.offer e) := by
  have hsame : p.emitter.isDeclared e.name = q.emitter.isDeclared e.name :=
    congrArg (fun names => names.contains e.name) h.declared
  cases hq : q.emitter.isDeclared e.name with
  | true =>
      rw [offer_declared hq, offer_declared (hsame.trans hq)]
      refine ⟨h.globals, h.declared, ?_⟩
      show (p.emitter.queue ++ [e]).length = (q.emitter.queue ++ [e]).length
      have hlen : p.emitter.queue.length = q.emitter.queue.length :=
        h.pending
      rw [List.length_append, List.length_append, hlen]
  | false =>
      rw [offer_undeclared hq, offer_undeclared (hsame.trans hq)]
      exact ⟨h.globals, h.declared, h.pending⟩

theorem Alike.offerAll (events : List Event) :
    ∀ {p q : Pass}, Alike p q →
      Alike (p.offerAll events) (q.offerAll events) := by
  induction events with
  | nil => intro p q h; exact h
  | cons e rest ih => intro p q h; exact ih (h.offer e)

/-- A render call gives the same in passes that are alike, and finds the
same surroundings. -/
theorem Alike.called {p q : Pass} (h : Alike p q) (rule : Rule)
    (bound attrs item : Props) (index : Nat) :
    (p.called rule bound attrs item index).1
        = (q.called rule bound attrs item index).1
      ∧ Alike (p.called rule bound attrs item index).2
          (q.called rule bound attrs item index).2 := by
  have hout : (p.called rule bound attrs item index).1
      = (q.called rule bound attrs item index).1 := by
    unfold Pass.called surroundings
    rw [h.globals, h.declared, h.pending]
  exact ⟨hout, congrArg Rendered.globals hout, h.declared, h.pending⟩

/-- What holds between two passes and is kept by notices and by render
calls that give the same node is kept by a whole list of items, and the
trees and positions are the same. -/
theorem renderFrom_related {R : Pass → Pass → Prop} {registry : Registry}
    {bound attrs : Props}
    (htell : ∀ {p q : Pass} (n : Notice), R p q →
      R { p with notices := p.notices ++ [n] }
        { q with notices := q.notices ++ [n] })
    (hrender : ∀ {p q : Pass} {rule : Rule}, rule ∈ registry.rules →
      ∀ (item : Props) (index : Nat), R p q →
        (p.renderItem rule bound attrs item index).1
            = (q.renderItem rule bound attrs item index).1
          ∧ R (p.renderItem rule bound attrs item index).2
            (q.renderItem rule bound attrs item index).2)
    (data : List Props) : ∀ (index : Nat) {p q : Pass}, R p q →
    (renderFrom registry bound attrs index data p).1
        = (renderFrom registry bound attrs index data q).1
      ∧ (renderFrom registry bound attrs index data p).2.1
        = (renderFrom registry bound attrs index data q).2.1 := by
  induction data with
  | nil => intro index p q _; exact ⟨rfl, rfl⟩
  | cons item rest ih =>
      intro index p q h
      unfold Pass.renderFrom
      cases hrule : registry.select? item with
      | none =>
          obtain ⟨hnodes, hrest⟩ := ih (index + 1)
            (htell (.unmatchedItem index item.keys) h)
          exact ⟨hnodes, congrArg (index :: ·) hrest⟩
      | some rule =>
          obtain ⟨hnode, hnext⟩ := hrender
            (List.mem_of_find?_eq_some hrule) item index h
          obtain ⟨hnodes, hrest⟩ := ih (index + 1) hnext
          refine ⟨?_, hrest⟩
          show _ :: _ = _ :: _
          rw [hnode, hnodes]

/-- Passes that are alike render the same trees and report the same
positions. -/
theorem Alike.renderFrom (registry : Registry) (bound attrs : Props)
    (data : List Props) (index : Nat) {p q : Pass} (h : Alike p q) :
    (renderFrom registry bound attrs index data p).1
        = (renderFrom registry bound attrs index data q).1
      ∧ (renderFrom registry bound attrs index data p).2.1
        = (renderFrom registry bound attrs index data q).2.1 := by
  refine renderFrom_related ?_ ?_ data index h
  · intro p q n h
    exact ⟨h.globals, h.declared, h.pending⟩
  · intro p q rule _ item index h
    obtain ⟨hout, hcalled⟩ := h.called rule bound attrs item index
    refine ⟨congrArg Rendered.node hout, ?_⟩
    rw [renderItem_eq_offerAll, renderItem_eq_offerAll, hout]
    exact hcalled.offerAll _

end Pass

namespace Instance

/-- The result of a render pass, but for handles, as the pass alone
makes it. -/
theorem anonymous_renderPass (i : Instance) (a : Ambient) :
    (i.renderPass a).1.anonymous
      = let out := Pass.renderItems i.definition.registry i.bound i.attrs
          i.data (.start (i.readGlobals a) i.emitter)
        RenderOutput.anonymous
          ⟨i.definition.config.container.wrap out.1
            (forwardedProps i.bound i.attrs), out.2.1⟩ := by
  unfold renderPass RenderOutput.anonymous
  refine congrArg (RenderOutput.mk · _) ?_
  unfold writeGlobals
  cases i.globals with
  | own g =>
      exact Node.anonymous_wrap _ _ (Node.anonymousAll_issueAll _ _)
  | shared cell =>
      exact Node.anonymous_wrap _ _ (Node.anonymousAll_issueAll _ _)

end Instance

end RuledList
