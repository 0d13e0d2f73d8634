/-
Expansion inlines components completely, and exactly once. The recursion
is not structural — what a component renders is expanded again, with the
already expanded slot content somewhere inside it — so the argument is an
induction on the depth of the expansion, with a structural induction
over the tree inside each step.

# What is rendered

`Node.invocations` lists the invocations of a tree in the order in which
they are to be rendered: siblings from left to right, and slot content
before its owner. A `Visit` is one call of a render function together
with the calls that expanding its output leads to, and `Accounts` ties
it to the invocation that it is for: the call is handed the fully
expanded slot content, and the visits within are those for the
invocations of the output. A slot has no invocations left, so however
often an output repeats it, nothing of it is rendered again.

# The log

`logged` is a family of render functions that writes every call into the
state before anything else happens. An expansion with the logged family
gives the same tree, and its log is the visits of the tree's own
invocations, one for each and in their order (`expand_inlines_once`).
-/
import Mathlib.Data.List.Forall2
import RuledList.Instance.Render
import RuledList.Template.Basic

namespace RuledList

/-- An invocation of a component in a tree. -/
structure Invocation where
  ref : ComponentRef
  props : Props
  children : List Node

/-- A call of a component's render function. -/
structure Call where
  ref : ComponentRef
  props : Props
  slot : List Node

/-- A call with its output, and the visits that expanding the output
leads to. -/
inductive Visit where
  | mk (call : Call) (output : Node) (within : List Visit)

namespace Visit

mutual

/-- The calls of a visit, in the order in which they are made. -/
def calls : Visit → List Call
  | .mk call _ within => call :: callsAll within
termination_by structural v => v

/-- The calls of several visits, one after the other. -/
def callsAll : List Visit → List Call
  | [] => []
  | v :: rest => calls v ++ callsAll rest
termination_by structural vs => vs

end

theorem callsAll_append (vs ws : List Visit) :
    callsAll (vs ++ ws) = callsAll vs ++ callsAll ws := by
  induction vs with
  | nil => rfl
  | cons v rest ih =>
      show calls v ++ callsAll (rest ++ ws) = _
      rw [ih, ← List.append_assoc]
      rfl

end Visit

namespace Node

-- ========================================================= invocations

mutual

/-- The invocations of a tree: siblings in document order, those of the
slot content before their owner. -/
def invocations : Node → List Invocation
  | .element _ _ cs => invocationsAll cs
  | .component ref props cs => invocationsAll cs ++ [⟨ref, props, cs⟩]
  | .text _ => []
  | .fragment cs => invocationsAll cs
termination_by structural n => n

/-- The invocations of several trees, one after the other. -/
def invocationsAll : List Node → List Invocation
  | [] => []
  | n :: rest => invocations n ++ invocationsAll rest
termination_by structural ns => ns

end

/-- A tree that invokes no component at any depth. -/
def HostOnly (n : Node) : Prop := n.invocations = []

/-- Sibling trees that invoke no component at any depth. -/
def HostOnlyAll (ns : List Node) : Prop := invocationsAll ns = []

theorem hostOnlyAll_cons {n : Node} {rest : List Node} :
    HostOnlyAll (n :: rest) ↔ n.HostOnly ∧ HostOnlyAll rest :=
  List.append_eq_nil_iff

-- ================================================== walking over a tree

section Walk

variable {σ τ : Type}

mutual

/-- A walk over a tree without invocations returns the tree and does
nothing, whatever its step would do. -/
theorem replace_hostOnly
    (step : ComponentRef → Props → List Node → σ → Option (Node × σ))
    (n : Node) (h : n.HostOnly) (s : σ) :
    n.replace step s = some (n, s) := by
  cases n with
  | element tag attrs cs =>
      show (replaceAll step cs s).map _ = _
      rw [replaceAll_hostOnly step cs h s]
      rfl
  | component ref props cs =>
      exact absurd h (by simp [HostOnly, invocations])
  | text t => rfl
  | fragment cs =>
      show (replaceAll step cs s).map _ = _
      rw [replaceAll_hostOnly step cs h s]
      rfl
termination_by structural n

theorem replaceAll_hostOnly
    (step : ComponentRef → Props → List Node → σ → Option (Node × σ))
    (ns : List Node) (h : HostOnlyAll ns) (s : σ) :
    replaceAll step ns s = some (ns, s) := by
  cases ns with
  | nil => rfl
  | cons n rest =>
      obtain ⟨hn, hrest⟩ := hostOnlyAll_cons.1 h
      show (n.replace step s).bind _ = _
      rw [replace_hostOnly step n hn s]
      show (replaceAll step rest s).map _ = _
      rw [replaceAll_hostOnly step rest hrest s]
      rfl
termination_by structural ns

end

mutual

/-- A walk that succeeds with one step succeeds alike with any step that
gives no less. -/
theorem replace_mono
    {step more : ComponentRef → Props → List Node → σ → Option (Node × σ)}
    (hmore : ∀ ref props slot s out,
      step ref props slot s = some out → more ref props slot s = some out)
    (n : Node) {s : σ} {out : Node × σ} (h : n.replace step s = some out) :
    n.replace more s = some out := by
  cases n with
  | element tag attrs cs =>
      obtain ⟨r, hr, rfl⟩ := Option.map_eq_some_iff.1 h
      show (replaceAll more cs s).map _ = _
      rw [replaceAll_mono hmore cs hr]
      rfl
  | component ref props cs =>
      obtain ⟨r, hr, hstep⟩ := Option.bind_eq_some_iff.1 h
      show (replaceAll more cs s).bind _ = _
      rw [replaceAll_mono hmore cs hr]
      exact hmore _ _ _ _ _ hstep
  | text t => exact h
  | fragment cs =>
      obtain ⟨r, hr, rfl⟩ := Option.map_eq_some_iff.1 h
      show (replaceAll more cs s).map _ = _
      rw [replaceAll_mono hmore cs hr]
      rfl
termination_by structural n

theorem replaceAll_mono
    {step more : ComponentRef → Props → List Node → σ → Option (Node × σ)}
    (hmore : ∀ ref props slot s out,
      step ref props slot s = some out → more ref props slot s = some out)
    (ns : List Node) {s : σ} {out : List Node × σ}
    (h : replaceAll step ns s = some out) :
    replaceAll more ns s = some out := by
  cases ns with
  | nil => exact h
  | cons n rest =>
      obtain ⟨r, hr, hmap⟩ := Option.bind_eq_some_iff.1 h
      obtain ⟨q, hq, rfl⟩ := Option.map_eq_some_iff.1 hmap
      show (n.replace more s).bind _ = _
      rw [replace_mono hmore n hr]
      show (replaceAll more rest r.2).map _ = _
      rw [replaceAll_mono hmore rest hq]
      rfl
termination_by structural ns

end

mutual

/-- A walk whose step accounts for every invocation that it is given by
a visit, leaves no invocation behind and logs the calls of the visit,
accounts for the invocations of the tree, in their order, leaves none of
them, and logs the calls of all the visits. -/
theorem replace_logged {account : Invocation → Visit → Prop}
    {step : ComponentRef → Props → List Node → σ → Option (Node × σ)}
    {noted : ComponentRef → Props → List Node → σ × List Call →
      Option (Node × σ × List Call)}
    (hstep : ∀ ref props cs slot s₀ s out s',
      replaceAll step cs s₀ = some (slot, s) → HostOnlyAll slot →
      step ref props slot s = some (out, s') →
      out.HostOnly ∧ ∃ v, account ⟨ref, props, cs⟩ v
        ∧ ∀ log, noted ref props slot (s, log)
          = some (out, s', log ++ v.calls))
    (n : Node) {s s' : σ} {out : Node}
    (h : n.replace step s = some (out, s')) :
    out.HostOnly ∧ ∃ vs, List.Forall₂ account n.invocations vs
      ∧ ∀ log, n.replace noted (s, log)
        = some (out, s', log ++ Visit.callsAll vs) := by
  cases n with
  | element tag attrs cs =>
      obtain ⟨r, hr, hout⟩ := Option.map_eq_some_iff.1 h
      obtain ⟨slot, s₁⟩ := r
      cases hout
      obtain ⟨hhost, vs, hvs, hlog⟩ := replaceAll_logged hstep cs hr
      refine ⟨hhost, vs, hvs, fun log => ?_⟩
      show (replaceAll noted cs (s, log)).map _ = _
      rw [hlog]
      rfl
  | component ref props cs =>
      obtain ⟨r, hr, hout⟩ := Option.bind_eq_some_iff.1 h
      obtain ⟨slot, s₁⟩ := r
      obtain ⟨hslot, vs, hvs, hlog⟩ := replaceAll_logged hstep cs hr
      obtain ⟨hhost, v, hv, hnoted⟩ :=
        hstep ref props cs slot s s₁ out s' hr hslot hout
      refine ⟨hhost, vs ++ [v], ?_, fun log => ?_⟩
      · exact List.rel_append hvs (.cons hv .nil)
      · show (replaceAll noted cs (s, log)).bind _ = _
        rw [hlog]
        show noted ref props slot (s₁, log ++ Visit.callsAll vs) = _
        rw [hnoted, Visit.callsAll_append, List.append_assoc]
        show some (out, s', log ++ (Visit.callsAll vs ++ v.calls))
          = some (out, s', log ++ (Visit.callsAll vs ++ (v.calls ++ [])))
        rw [List.append_nil]
  | text t =>
      cases h
      refine ⟨rfl, [], .nil, fun log => ?_⟩
      show some (text t, s, log) = some (text t, s, log ++ [])
      rw [List.append_nil]
  | fragment cs =>
      obtain ⟨r, hr, hout⟩ := Option.map_eq_some_iff.1 h
      obtain ⟨slot, s₁⟩ := r
      cases hout
      obtain ⟨hhost, vs, hvs, hlog⟩ := replaceAll_logged hstep cs hr
      refine ⟨hhost, vs, hvs, fun log => ?_⟩
      show (replaceAll noted cs (s, log)).map _ = _
      rw [hlog]
      rfl
termination_by structural n

theorem replaceAll_logged {account : Invocation → Visit → Prop}
    {step : ComponentRef → Props → List Node → σ → Option (Node × σ)}
    {noted : ComponentRef → Props → List Node → σ × List Call →
      Option (Node × σ × List Call)}
    (hstep : ∀ ref props cs slot s₀ s out s',
      replaceAll step cs s₀ = some (slot, s) → HostOnlyAll slot →
      step ref props slot s = some (out, s') →
      out.HostOnly ∧ ∃ v, account ⟨ref, props, cs⟩ v
        ∧ ∀ log, noted ref props slot (s, log)
          = some (out, s', log ++ v.calls))
    (ns : List Node) {s s' : σ} {out : List Node}
    (h : replaceAll step ns s = some (out, s')) :
    HostOnlyAll out ∧ ∃ vs, List.Forall₂ account (invocationsAll ns) vs
      ∧ ∀ log, replaceAll noted ns (s, log)
        = some (out, s', log ++ Visit.callsAll vs) := by
  cases ns with
  | nil =>
      cases h
      refine ⟨rfl, [], .nil, fun log => ?_⟩
      show some ([], s, log) = some ([], s, log ++ [])
      rw [List.append_nil]
  | cons n rest =>
      obtain ⟨r, hr, hmap⟩ := Option.bind_eq_some_iff.1 h
      obtain ⟨first, s₁⟩ := r
      obtain ⟨q, hq, hout⟩ := Option.map_eq_some_iff.1 hmap
      obtain ⟨others, s₂⟩ := q
      cases hout
      obtain ⟨hfirst, vs, hvs, hlog⟩ := replace_logged hstep n hr
      obtain ⟨hothers, ws, hws, hlog'⟩ := replaceAll_logged hstep rest hq
      refine ⟨hostOnlyAll_cons.2 ⟨hfirst, hothers⟩, vs ++ ws,
        List.rel_append hvs hws, fun log => ?_⟩
      show (n.replace noted (s, log)).bind _ = _
      rw [hlog]
      show (replaceAll noted rest (s₁, log ++ Visit.callsAll vs)).map _ = _
      rw [hlog', Visit.callsAll_append, ← List.append_assoc]
      rfl
termination_by structural ns

end

end Walk

-- =========================================================== expansion

section Expand

variable {σ : Type}
  {render : ComponentRef → Props → List Node → σ → Option (Node × σ)}

/-- More depth than an expansion needs changes nothing. -/
theorem expandWith_mono {depth : Nat} : ∀ {more : Nat}, depth ≤ more →
    ∀ {n : Node} {s : σ} {out : Node × σ},
      n.expandWith render depth s = some out →
      n.expandWith render more s = some out := by
  induction depth with
  | zero =>
      intro more _ n s out h
      have hnone : ∀ (ref : ComponentRef) (props : Props)
          (slot : List Node) (s : σ) (out : Node × σ),
          (none : Option (Node × σ)) = some out → False := by
        intro _ _ _ _ _ hout
        cases hout
      cases more with
      | zero => exact h
      | succ more =>
          exact replace_mono
            (fun ref props slot s out hout =>
              absurd hout (hnone ref props slot s out)) n h
  | succ depth ih =>
      intro more hle n s out h
      cases more with
      | zero => omega
      | succ more =>
          refine replace_mono (fun ref props slot s out hout => ?_) n h
          obtain ⟨r, hr, hrest⟩ := Option.bind_eq_some_iff.1 hout
          rw [hr]
          exact ih (by omega) hrest

/-- A tree without invocations expands to itself, and nothing happens. -/
theorem expandWith_hostOnly (depth : Nat) {n : Node} (h : n.HostOnly)
    (s : σ) : n.expandWith render depth s = some (n, s) := by
  cases depth with
  | zero => exact replace_hostOnly _ n h s
  | succ depth => exact replace_hostOnly _ n h s

/-- Expanding an invocation is expanding its slot content, handing that
to the component, and expanding what the component renders, with less
depth. -/
theorem expandWith_component {depth : Nat} {ref : ComponentRef}
    {props : Props} {cs : List Node} {s s' : σ} {tree : Node} :
    (component ref props cs).expandWith render depth s = some (tree, s') ↔
      ∃ rest slot s₁ out s₂, depth = rest + 1
        ∧ (fragment cs).expandWith render depth s
          = some (fragment slot, s₁)
        ∧ render ref props slot s₁ = some (out, s₂)
        ∧ out.expandWith render rest s₂ = some (tree, s') := by
  cases depth with
  | zero =>
      constructor
      · intro h
        obtain ⟨r, -, hstep⟩ := Option.bind_eq_some_iff.1 h
        cases hstep
      · rintro ⟨rest, -, -, -, -, hdepth, -⟩
        cases hdepth
  | succ rest =>
      constructor
      · intro h
        obtain ⟨⟨slot, s₁⟩, hslot, hstep⟩ := Option.bind_eq_some_iff.1 h
        obtain ⟨⟨out, s₂⟩, hcall, hrest⟩ :=
          Option.bind_eq_some_iff.1 hstep
        refine ⟨rest, slot, s₁, out, s₂, rfl, ?_, hcall, hrest⟩
        exact Option.map_eq_some_iff.2 ⟨_, hslot, rfl⟩
      · rintro ⟨less, slot, s₁, out, s₂, hdepth, hslot, hcall, hrest⟩
        cases hdepth
        obtain ⟨⟨slot', s₁'⟩, hslot, heq⟩ := Option.map_eq_some_iff.1 hslot
        cases heq
        refine Option.bind_eq_some_iff.2 ⟨_, hslot, ?_⟩
        exact Option.bind_eq_some_iff.2 ⟨_, hcall, hrest⟩

/-- Render functions that write every call into the state before they
do anything else. -/
def logged
    (render : ComponentRef → Props → List Node → σ → Option (Node × σ)) :
    ComponentRef → Props → List Node → σ × List Call →
      Option (Node × σ × List Call) :=
  fun ref props slot (s, log) =>
    (render ref props slot s).map fun (out, s) =>
      (out, s, log ++ [⟨ref, props, slot⟩])

/-- A visit accounts for an invocation: it is a call of the invoked
component with the given properties and with the expanded slot content,
in which nothing is invoked any more, and the visits within account for
the invocations of the output. -/
inductive Accounts
    (render : ComponentRef → Props → List Node → σ → Option (Node × σ)) :
    Invocation → Visit → Prop where
  | intro {ref : ComponentRef} {props : Props} {cs slot : List Node}
      {depth : Nat} {s₀ s₁ s₂ : σ} {output : Node} {within : List Visit}
      (hslot : (fragment cs).expandWith render depth s₀
        = some (fragment slot, s₁))
      (hhost : HostOnlyAll slot)
      (hcall : render ref props slot s₁ = some (output, s₂))
      (hwithin : List.Forall₂ (Accounts render) output.invocations within) :
      Accounts render ⟨ref, props, cs⟩
        (.mk ⟨ref, props, slot⟩ output within)

/-- An expansion leaves no invocation, and the calls that it makes are
visits that account for the invocations of the tree. -/
theorem expandWith_logged (depth : Nat) :
    ∀ (n : Node) {s s' : σ} {out : Node},
      n.expandWith render depth s = some (out, s') →
      out.HostOnly ∧ ∃ vs,
        List.Forall₂ (Accounts render) n.invocations vs
        ∧ ∀ log, n.expandWith (logged render) depth (s, log)
          = some (out, s', log ++ Visit.callsAll vs) := by
  induction depth with
  | zero =>
      intro n s s' out h
      refine replace_logged (fun ref props cs slot s₀ s out s' _ _ hout => ?_)
        n h
      cases hout
  | succ depth ih =>
      intro n s s' out h
      refine replace_logged
        (fun ref props cs slot s₀ s out s' hslot hhost hout => ?_) n h
      obtain ⟨r, hcall, hrest⟩ := Option.bind_eq_some_iff.1 hout
      obtain ⟨output, s₁⟩ := r
      obtain ⟨hclear, within, hwithin, hlog⟩ := ih output hrest
      have hexpand : (fragment cs).expandWith render (depth + 1) s₀
          = some (fragment slot, s) := by
        show (replaceAll _ cs s₀).map _ = _
        rw [hslot]
        rfl
      refine ⟨hclear, .mk ⟨ref, props, slot⟩ output within,
        .intro hexpand hhost hcall hwithin, fun log => ?_⟩
      have hnoted : logged render ref props slot (s, log)
          = some (output, s₁, log ++ [⟨ref, props, slot⟩]) := by
        show (render ref props slot s).map _ = _
        rw [hcall]
        rfl
      show (logged render ref props slot (s, log)).bind _ = _
      rw [hnoted]
      show output.expandWith (logged render) depth
        (s₁, log ++ [⟨ref, props, slot⟩]) = _
      rw [hlog, List.append_assoc]
      rfl

end Expand

end Node

-- ========================================================== main results

/-- Wherever an expansion ends, with the render functions of a catalog or
any others, its result invokes no component. More
depth changes nothing about it. Expanding the result again, with any
render functions and any depth, returns it and the state as they are, so
nothing is rendered. And the calls of the expansion are, in the order in
which they are made, visits that account for the invocations of the
tree: one for each, siblings in document order, slot content before its
owner, with the slot content expanded; all other calls are made within a
visit, for what its output invokes. -/
theorem expand_inlines_once {σ : Type}
    {render : ComponentRef → Props → List Node → σ → Option (Node × σ)}
    {depth : Nat} {n out : Node} {s s' : σ}
    (h : n.expandWith render depth s = some (out, s')) :
    out.HostOnly
    ∧ (∀ more, depth ≤ more →
        n.expandWith render more s = some (out, s'))
    ∧ (∀ {τ : Type} (again : ComponentRef → Props → List Node → τ →
          Option (Node × τ)) (depth' : Nat) (t : τ),
        out.expandWith again depth' t = some (out, t))
    ∧ ∃ visits,
        List.Forall₂ (Node.Accounts render) n.invocations visits
        ∧ ∀ log, n.expandWith (Node.logged render) depth (s, log)
          = some (out, s', log ++ Visit.callsAll visits) := by
  obtain ⟨hhost, hvisits⟩ := Node.expandWith_logged depth n h
  refine ⟨hhost, fun more hle => Node.expandWith_mono hle h, ?_, hvisits⟩
  intro τ again depth' t
  cases depth' with
  | zero => exact Node.replace_hostOnly _ out hhost t
  | succ depth' => exact Node.replace_hostOnly _ out hhost t

-- ===================================================== a copied slot

/-- A component that counts its renderings in shared globals. -/
def countedRule : Rule :=
  Rule.ofRender "m" (Template.ruleFn
    (.perform [⟨"add", .globals .add, "renders", .literal (.int 1)⟩]
      (.text "m")))

/-- The counted component, and the surroundings with its globals. -/
def counted : Definition × Ambient :=
  Definition.ofRegistry ⟨[countedRule]⟩
    { OutputConfig.standard with functional := true } .start

/-- The counted component, and one that puts its slot content twice. -/
def copyingCatalog : Catalog :=
  [.produced counted.1,
    .custom "Twice" 0 (Template.customFn (.fragment [.slot, .slot]))]

/-- The counted component in the slot of the one that copies. -/
def copiedSlot : Node :=
  .component ⟨1, "Twice", some 0⟩ OrdMap.empty
    [.component ⟨0, "RuleList", none⟩
      (OrdMap.empty.insert "data" (.array [.object [("m", .bool true)]]))
      []]

/-- The slot stands twice in the result and was rendered once, before
its owner. -/
theorem copied_slot_rendered_once :
    ∃ out after, copyingCatalog.expand copiedSlot counted.2
        = some (out, after)
      ∧ out.HostOnly
      ∧ out.textContent = "mm"
      ∧ ((after.cells.read 0).get? "renders").map Value.text = some "1"
      ∧ ((copiedSlot.expandWith (Node.logged copyingCatalog.render) 2
          (counted.2, [])).map fun r => r.2.2.map fun c => c.ref.name)
        = some ["RuleList", "Twice"]
      ∧ ∃ visits, List.Forall₂ (Node.Accounts copyingCatalog.render)
          copiedSlot.invocations visits := by
  have hends : (copyingCatalog.expand copiedSlot counted.2).isSome
      = true := by decide +kernel
  obtain ⟨⟨out, after⟩, h⟩ := Option.isSome_iff_exists.1 hends
  have htext : (copyingCatalog.expand copiedSlot counted.2).map
      (fun r => r.1.textContent) = some "mm" := by decide +kernel
  have hcount : (copyingCatalog.expand copiedSlot counted.2).map
      (fun r => ((r.2.cells.read 0).get? "renders").map Value.text)
        = some (some "1") := by decide +kernel
  rw [h] at htext hcount
  injection htext with htext
  injection hcount with hcount
  obtain ⟨hhost, -, -, visits, hvisits, -⟩ := expand_inlines_once h
  exact ⟨out, after, h, hhost, htext, hcount, by decide +kernel, visits,
    hvisits⟩

end RuledList
