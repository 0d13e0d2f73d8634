/-
Trees that are numbered again. Handles are given out in increasing order
(`le_issue`), so what is numbered later gets handles that nothing numbered
before has. Two copies of one tree, numbered one after the other, then
agree in everything but the references that had to be numbered, and
equality of trees compares handles. The copies are the same exactly when
nothing had to be numbered (`same_issue_iff`): one reference without a
handle, however deep in the tree, makes them differ.

The attributes and properties in the tree have to be tidy for that, since
a value that is not is not the same as itself.
-/
import RuledList.Proofs.Node.Expansion
import RuledList.Proofs.Node.Handles
import RuledList.Proofs.Value.Equality

namespace RuledList

/-- Whether a reference has a handle. -/
def ComponentRef.Fixed (ref : ComponentRef) : Prop :=
  ref.handle?.isSome = true

/-- References to custom components have a handle, and references to
produced ones have none. -/
theorem Catalog.fixed_ref?_iff {catalog : Catalog} {component : Nat}
    {ref : ComponentRef} (h : catalog.ref? component = some ref) :
    ref.Fixed ↔ ∀ d, catalog[component]? ≠ some (.produced d) := by
  unfold Catalog.ref? at h
  unfold ComponentRef.Fixed
  cases hc : catalog[component]? with
  | none =>
      rw [hc] at h
      cases h
  | some entry =>
      rw [hc] at h
      cases entry with
      | custom name handle f =>
          cases h
          exact ⟨fun _ _ heq => (nomatch heq), fun _ => rfl⟩
      | produced d =>
          cases h
          exact ⟨fun hsome => (nomatch hsome),
            fun hno => absurd rfl (hno d)⟩

namespace Node

-- ================================================================ trees

mutual

/-- Whether the attributes and properties in a tree are tidy. -/
def Tidy : Node → Prop
  | .element _ attrs cs => attrs.Tidy ∧ TidyAll cs
  | .component _ props cs => props.Tidy ∧ TidyAll cs
  | .text _ => True
  | .fragment cs => TidyAll cs
termination_by structural n => n

/-- Whether the attributes and properties in several trees are tidy. -/
def TidyAll : List Node → Prop
  | [] => True
  | n :: rest => Tidy n ∧ TidyAll rest
termination_by structural ns => ns

end

/-- Whether every reference in a tree has a handle. -/
def Fixed (n : Node) : Prop := ∀ x ∈ n.invocations, x.ref.Fixed

/-- Whether every reference in several trees has a handle. -/
def FixedAll (ns : List Node) : Prop :=
  ∀ x ∈ invocationsAll ns, x.ref.Fixed

theorem fixed_component {ref : ComponentRef} {props : Props}
    {cs : List Node} :
    (component ref props cs).Fixed ↔ ref.Fixed ∧ FixedAll cs := by
  simp [Fixed, FixedAll, invocations, or_imp, forall_and, and_comm]

theorem fixedAll_cons {n : Node} {rest : List Node} :
    FixedAll (n :: rest) ↔ n.Fixed ∧ FixedAll rest := by
  simp [Fixed, FixedAll, invocationsAll, or_imp, forall_and]

mutual

/-- Handles are no part of what is tidy. -/
theorem tidy_issue (n : Node) (next : Nat) :
    (n.issue next).1.Tidy ↔ n.Tidy := by
  cases n with
  | element tag attrs cs => exact and_congr_right' (tidyAll_issueAll cs _)
  | component ref props cs => exact and_congr_right' (tidyAll_issueAll cs _)
  | text t => exact Iff.rfl
  | fragment cs => exact tidyAll_issueAll cs next
termination_by structural n

theorem tidyAll_issueAll (ns : List Node) (next : Nat) :
    TidyAll (issueAll ns next).1 ↔ TidyAll ns := by
  cases ns with
  | nil => exact Iff.rfl
  | cons n rest =>
      exact and_congr (tidy_issue n next) (tidyAll_issueAll rest _)
termination_by structural ns

end

-- ============================================================ numbering

theorem le_issueRef (ref : ComponentRef) (next : Nat) :
    next ≤ (issueRef ref next).2 := by
  unfold issueRef
  cases ref.handle? with
  | none => exact Nat.le_succ next
  | some handle => exact Nat.le_refl next

mutual

/-- Numbers that were given out are not given out again. -/
theorem le_issue (n : Node) (next : Nat) : next ≤ (n.issue next).2 := by
  cases n with
  | element tag attrs cs => exact le_issueAll cs next
  | component ref props cs =>
      exact Nat.le_trans (le_issueRef ref next) (le_issueAll cs _)
  | text t => exact Nat.le_refl next
  | fragment cs => exact le_issueAll cs next
termination_by structural n

theorem le_issueAll (ns : List Node) (next : Nat) :
    next ≤ (issueAll ns next).2 := by
  cases ns with
  | nil => exact Nat.le_refl next
  | cons n rest =>
      exact Nat.le_trans (le_issue n next) (le_issueAll rest _)
termination_by structural ns

end

/-- A reference that is numbered twice is the same if it did not have to
be numbered. -/
theorem issueRef_eq_iff {ref : ComponentRef} {next later : Nat}
    (h : (issueRef ref next).2 ≤ later) :
    (issueRef ref next).1 = (issueRef ref later).1 ↔ ref.Fixed := by
  unfold ComponentRef.Fixed
  cases hhandle : ref.handle? with
  | some handle =>
      unfold issueRef
      rw [hhandle]
      exact ⟨fun _ => rfl, fun _ => rfl⟩
  | none =>
      unfold issueRef at h ⊢
      rw [hhandle] at h ⊢
      refine ⟨fun heq => ?_, fun hsome => (nomatch hsome)⟩
      have hnumbers : next = later :=
        Option.some.inj (congrArg ComponentRef.handle? heq)
      exact absurd (hnumbers ▸ h) (Nat.not_succ_le_self next)

mutual

/-- A tree that is numbered now and again later is the same tree exactly
when nothing had to be numbered. -/
theorem same_issue_iff (n : Node) (htidy : n.Tidy) {next later : Nat}
    (h : (n.issue next).2 ≤ later) :
    (n.issue next).1.same (n.issue later).1 = true ↔ n.Fixed := by
  cases n with
  | element tag attrs cs =>
      obtain ⟨hattrs, hcs⟩ := htidy
      show (tag == tag && attrs.same attrs && sameAll _ _) = true ↔ _
      rw [beq_self_eq_true, Props.same_refl hattrs]
      exact sameAll_issueAll_iff cs hcs h
  | component ref props cs =>
      obtain ⟨hprops, hcs⟩ := htidy
      have hnow := le_issueAll cs (issueRef ref next).2
      have hthen := le_issueRef ref later
      have hall : (issueAll cs (issueRef ref next).2).2 ≤ later := h
      have href : (issueRef ref next).2 ≤ later := by omega
      have hslot : (issueAll cs (issueRef ref next).2).2
          ≤ (issueRef ref later).2 := by omega
      show ((issueRef ref next).1 == (issueRef ref later).1
        && props.same props
        && sameAll (issueAll cs (issueRef ref next).2).1
          (issueAll cs (issueRef ref later).2).1) = true ↔ _
      rw [Props.same_refl hprops, Bool.and_true, Bool.and_eq_true,
        beq_iff_eq, issueRef_eq_iff href,
        sameAll_issueAll_iff cs hcs hslot, fixed_component]
  | text t =>
      exact ⟨fun _ x hx => (nomatch hx), fun _ => beq_self_eq_true t⟩
  | fragment cs => exact sameAll_issueAll_iff cs htidy h
termination_by structural n

theorem sameAll_issueAll_iff (ns : List Node) (htidy : TidyAll ns)
    {next later : Nat} (h : (issueAll ns next).2 ≤ later) :
    sameAll (issueAll ns next).1 (issueAll ns later).1 = true
      ↔ FixedAll ns := by
  cases ns with
  | nil => exact ⟨fun _ x hx => (nomatch hx), fun _ => rfl⟩
  | cons n rest =>
      obtain ⟨hn, hrest⟩ := htidy
      have hnow := le_issueAll rest (n.issue next).2
      have hthen := le_issue n later
      have hall : (issueAll rest (n.issue next).2).2 ≤ later := h
      have hhead : (n.issue next).2 ≤ later := by omega
      have htail : (issueAll rest (n.issue next).2).2
          ≤ (n.issue later).2 := by omega
      show (same _ _ && sameAll _ _) = true ↔ _
      rw [Bool.and_eq_true, same_issue_iff n hn hhead,
        sameAll_issueAll_iff rest hrest htail, fixedAll_cons]
termination_by structural ns

end

end Node

-- ============================================================= wrapping

/-- What trees are wrapped in is as tidy as what it is handed. -/
theorem Container.tidyAll_of_wrap {c : Container} {ns : List Node}
    {forwarded : Props} (h : (c.wrap ns forwarded).Tidy) :
    Node.TidyAll ns := by
  cases c with
  | none => exact h
  | tag name => exact h.2
  | component ref => exact h.2

/-- Wrapped trees are the same if the trees are: a wrapping has one
reference, which does not change. -/
theorem Container.same_wrap_iff {c : Container} {ns ms : List Node}
    {forwarded : Props} (h : (c.wrap ns forwarded).Tidy) :
    (c.wrap ns forwarded).same (c.wrap ms forwarded) = true
      ↔ Node.sameAll ns ms = true := by
  cases c with
  | none => exact Iff.rfl
  | tag name =>
      show (name == name && _ && _) = true ↔ _
      rw [beq_self_eq_true, Props.same_refl h.1]
      rfl
  | component ref =>
      show (ref == ref && _ && _) = true ↔ _
      rw [beq_self_eq_true, Props.same_refl h.1]
      rfl

end RuledList
