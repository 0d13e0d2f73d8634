/-
Expansions that cannot be told apart. Two walks over trees that differ
in handles only, with steps that answer alike and keep a relation
between their states, return the same tree and end in related states
(`Node.expandWith_simulates`). The trees that come out are the same down
to the last handle: nothing is left in them that could have one.

# Looking ahead

Steps may be known to answer alike only as long as nothing untoward
happens, and whether anything did is to be read off the last state: off
a log of calls, say. So the relation goes with a condition that is known
of the state at the end and is handed back, run by run, to the states
before (`Simulates`). With a condition that always holds this is an
ordinary simulation.

`Simulates` composes along the plumbing of walks (`Simulates.bind`), so
the two inductions, over the tree inside each step and over the depth,
have only the plumbing to take apart.
-/
import RuledList.Proofs.Node.Expansion
import RuledList.Proofs.Node.Handles

namespace RuledList

-- =========================================================== simulation

section Simulation

variable {σ τ α β : Type} {Fair : σ → Prop} {Related : σ → τ → Prop}

/-- Whatever a run answers, another one answers alike from any related
state and ends in a related one, provided that the first run ends in a
fair state; and it has then begun in a fair one. -/
def Simulates (Fair : σ → Prop) (Related : σ → τ → Prop)
    (Alike : α → α → Prop) (run : σ → Option (α × σ))
    (other : τ → Option (α × τ)) : Prop :=
  ∀ s out s', run s = some (out, s') → Fair s' →
    Fair s ∧ ∀ t, Related s t →
      ∃ out' t', other t = some (out', t') ∧ Alike out out'
        ∧ Related s' t'

namespace Simulates

/-- Runs that only answer. -/
theorem answer (out : α) :
    Simulates Fair Related Eq (fun s => some (out, s))
      (fun t => some (out, t)) := by
  intro s _ _ hrun hfair
  cases hrun
  exact ⟨hfair, fun t hst => ⟨out, t, rfl, rfl, hst⟩⟩

/-- A run that never answers. -/
theorem fails {Alike : α → α → Prop} (other : τ → Option (α × τ)) :
    Simulates Fair Related Alike (fun _ => none) other := by
  intro s out s' hrun _
  cases hrun

/-- One run after another, the second on what the first answered. -/
theorem bind {Alike : α → α → Prop} {Alike' : β → β → Prop}
    {run : σ → Option (α × σ)} {other : τ → Option (α × τ)}
    (next : α → σ → Option (β × σ)) (next' : α → τ → Option (β × τ))
    (h : Simulates Fair Related Alike run other)
    (hrefl : ∀ out, Alike out out)
    (hnext : ∀ out out', Alike out out' →
      Simulates Fair Related Alike' (next out) (next' out')) :
    Simulates Fair Related Alike'
      (fun s => (run s).bind fun r => next r.1 r.2)
      (fun t => (other t).bind fun r => next' r.1 r.2) := by
  intro s last s' hrun hfair
  obtain ⟨⟨out, mid⟩, hfirst, hsecond⟩ := Option.bind_eq_some_iff.1 hrun
  obtain ⟨hmid, -⟩ :=
    hnext out out (hrefl out) mid last s' hsecond hfair
  obtain ⟨hs, hrelated⟩ := h s out mid hfirst hmid
  refine ⟨hs, fun t hst => ?_⟩
  obtain ⟨out', t', hother, halike, hst'⟩ := hrelated t hst
  obtain ⟨last', t'', hlast, halike', hst''⟩ :=
    (hnext out out' halike mid last s' hsecond hfair).2 t' hst'
  exact ⟨last', t'', Option.bind_eq_some_iff.2 ⟨_, hother, hlast⟩,
    halike', hst''⟩

/-- Something made of what a run answered. -/
theorem map {run : σ → Option (α × σ)} {other : τ → Option (α × τ)}
    (h : Simulates Fair Related Eq run other) (f : α → β) :
    Simulates Fair Related Eq
      (fun s => (run s).map fun r => (f r.1, r.2))
      (fun t => (other t).map fun r => (f r.1, r.2)) := by
  intro s last s' hrun hfair
  obtain ⟨⟨out, mid⟩, hfirst, hlast⟩ := Option.map_eq_some_iff.1 hrun
  cases hlast
  obtain ⟨hs, hrelated⟩ := h s out _ hfirst hfair
  refine ⟨hs, fun t hst => ?_⟩
  obtain ⟨out', t', hother, rfl, hst'⟩ := hrelated t hst
  exact ⟨f out, t', Option.map_eq_some_iff.2 ⟨_, hother, rfl⟩, rfl,
    hst'⟩

end Simulates

-- ================================================================ walks

namespace Node

mutual

/-- Walks over trees that differ in handles only, with steps that answer
the same for invocations of one component. -/
theorem replace_simulates
    {step : ComponentRef → Props → List Node → σ → Option (Node × σ)}
    {step' : ComponentRef → Props → List Node → τ → Option (Node × τ)}
    (hstep : ∀ {ref ref' : ComponentRef},
      ref.component = ref'.component → ∀ props slot,
        Simulates Fair Related Eq (step ref props slot)
          (step' ref' props slot))
    (n n' : Node) (h : n.anonymous = n'.anonymous) :
    Simulates Fair Related Eq (n.replace step) (n'.replace step') := by
  cases n with
  | element tag attrs cs =>
      cases n' with
      | element tag' attrs' cs' =>
          injection h with htag hattrs hcs
          subst htag hattrs
          exact (replaceAll_simulates hstep cs cs' hcs).map
            (element tag attrs)
      | _ => cases h
  | component ref props cs =>
      cases n' with
      | component ref' props' cs' =>
          injection h with href hprops hcs
          subst hprops
          injection href with hcomponent
          refine (replaceAll_simulates hstep cs cs' hcs).bind
            (step ref props) (step' ref' props) (fun _ => rfl)
            fun slot slot' hslot => ?_
          subst hslot
          exact hstep hcomponent props slot
      | _ => cases h
  | text t =>
      cases n' with
      | text t' =>
          injection h with ht
          subst ht
          exact .answer (text t)
      | _ => cases h
  | fragment cs =>
      cases n' with
      | fragment cs' =>
          injection h with hcs
          exact (replaceAll_simulates hstep cs cs' hcs).map fragment
      | _ => cases h
termination_by structural n

theorem replaceAll_simulates
    {step : ComponentRef → Props → List Node → σ → Option (Node × σ)}
    {step' : ComponentRef → Props → List Node → τ → Option (Node × τ)}
    (hstep : ∀ {ref ref' : ComponentRef},
      ref.component = ref'.component → ∀ props slot,
        Simulates Fair Related Eq (step ref props slot)
          (step' ref' props slot))
    (ns ns' : List Node) (h : anonymousAll ns = anonymousAll ns') :
    Simulates Fair Related Eq (replaceAll step ns)
      (replaceAll step' ns') := by
  cases ns with
  | nil =>
      cases ns' with
      | nil => exact .answer []
      | cons n' rest' => cases h
  | cons n rest =>
      cases ns' with
      | nil => cases h
      | cons n' rest' =>
          injection h with hn hrest
          have hfirst := replace_simulates hstep n n' hn
          have hothers := replaceAll_simulates hstep rest rest' hrest
          refine hfirst.bind
            (fun n s => (replaceAll step rest s).map fun r =>
              (n :: r.1, r.2))
            (fun n t => (replaceAll step' rest' t).map fun r =>
              (n :: r.1, r.2)) (fun _ => rfl) fun out out' hout => ?_
          subst hout
          exact hothers.map (out :: ·)
termination_by structural ns

end

/-- Expansions of trees that differ in handles only, with render
functions that answer alike for one component, come to the same tree. -/
theorem expandWith_simulates
    {render : ComponentRef → Props → List Node → σ → Option (Node × σ)}
    {render' : ComponentRef → Props → List Node → τ → Option (Node × τ)}
    (hrender : ∀ {ref ref' : ComponentRef},
      ref.component = ref'.component → ∀ props slot,
        Simulates Fair Related (fun out out' =>
            out.anonymous = out'.anonymous)
          (render ref props slot) (render' ref' props slot))
    (depth : Nat) : ∀ (n n' : Node), n.anonymous = n'.anonymous →
      Simulates Fair Related Eq (n.expandWith render depth)
        (n'.expandWith render' depth) := by
  induction depth with
  | zero =>
      exact replace_simulates fun _ props slot => .fails _
  | succ depth ih =>
      refine replace_simulates fun href props slot => ?_
      exact (hrender href props slot).bind (expandWith render depth)
        (expandWith render' depth) (fun _ => rfl) ih

end Node

end Simulation

end RuledList
