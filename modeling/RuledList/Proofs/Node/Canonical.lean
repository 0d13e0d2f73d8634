/-
Equality of trees is equality up to the order of names. Attributes and
properties are compared by looking names up, at every depth of the tree
and of the values in it, and zeros without regard to their sign; all the
rest has to be identical, the handles of components included. Two trees
are the same, then, exactly if they are identical once everything that is
not looked at has been brought into one form (`same_iff_canonical`).

That equality is an equivalence follows at once. So does what equal trees
have in common, since bringing a tree into that form moves no node
(`at?_canonical`): at every position the text, the tag and the number of
children are the same.
-/
import RuledList.Proofs.Node.Identity
import RuledList.Proofs.Value.Equality

namespace RuledList.Node

-- ====================================================== canonical trees

mutual

/-- A tree with canonical attributes and properties. References are left
as they are. -/
def canonical : Node → Node
  | .element tag attrs cs => .element tag attrs.canonical (canonicalAll cs)
  | .component ref props cs =>
    .component ref props.canonical (canonicalAll cs)
  | .text t => .text t
  | .fragment cs => .fragment (canonicalAll cs)
termination_by structural n => n

/-- Trees with canonical attributes and properties. -/
def canonicalAll : List Node → List Node
  | [] => []
  | n :: rest => canonical n :: canonicalAll rest
termination_by structural ns => ns

end

mutual

/-- Tidy trees are the same exactly if their canonical trees are
identical. -/
theorem same_iff_canonical (n m : Node) (hn : n.Tidy) (hm : m.Tidy) :
    n.same m = true ↔ n.canonical = m.canonical := by
  cases n with
  | element tag attrs cs =>
      cases m with
      | element tag' attrs' cs' =>
          rw [same, Bool.and_eq_true, Bool.and_eq_true, beq_iff_eq,
            Props.same_iff hn.1 hm.1, sameAll_iff_canonical cs cs' hn.2 hm.2,
            canonical, canonical, element.injEq, and_assoc]
      | _ => simp [same, canonical]
  | component ref props cs =>
      cases m with
      | component ref' props' cs' =>
          rw [same, Bool.and_eq_true, Bool.and_eq_true, beq_iff_eq,
            Props.same_iff hn.1 hm.1, sameAll_iff_canonical cs cs' hn.2 hm.2,
            canonical, canonical, component.injEq, and_assoc]
      | _ => simp [same, canonical]
  | text t => cases m <;> simp [same, canonical]
  | fragment cs =>
      cases m with
      | fragment cs' =>
          rw [same, sameAll_iff_canonical cs cs' hn hm, canonical, canonical,
            fragment.injEq]
      | _ => simp [same, canonical]
termination_by structural n

theorem sameAll_iff_canonical (ns ms : List Node) (hns : TidyAll ns)
    (hms : TidyAll ms) :
    sameAll ns ms = true ↔ canonicalAll ns = canonicalAll ms := by
  cases ns with
  | nil => cases ms <;> simp [sameAll, canonicalAll]
  | cons n ns =>
      cases ms with
      | nil => simp [sameAll, canonicalAll]
      | cons m ms =>
          rw [sameAll, Bool.and_eq_true, same_iff_canonical n m hns.1 hms.1,
            sameAll_iff_canonical ns ms hns.2 hms.2, canonicalAll,
            canonicalAll, List.cons.injEq]
termination_by structural ns

end

/-- Equality of tidy trees is an equivalence. -/
theorem same_equivalence :
    Equivalence fun a b : {n : Node // n.Tidy} => a.1.same b.1 = true where
  refl a := (same_iff_canonical _ _ a.2 a.2).2 rfl
  symm {a b} h :=
    (same_iff_canonical _ _ b.2 a.2).2
      ((same_iff_canonical _ _ a.2 b.2).1 h).symm
  trans {a b c} hab hbc :=
    (same_iff_canonical _ _ a.2 c.2).2
      (((same_iff_canonical _ _ a.2 b.2).1 hab).trans
        ((same_iff_canonical _ _ b.2 c.2).1 hbc))

-- ============================================================ positions

/-- The node at a position: the places, from the root down, that lead to
it among its siblings. -/
def at? (n : Node) : List Nat → Option Node
  | [] => some n
  | place :: path => n.children[place]?.bind fun c => c.at? path

/-- What is counted and read at a node: the text below it, its tag, and
the number of its children. -/
def outline (n : Node) : String × Option String × Nat :=
  (n.textContent, n.tag?, n.children.length)

theorem canonicalAll_eq_map (ns : List Node) :
    canonicalAll ns = ns.map canonical := by
  induction ns with
  | nil => rfl
  | cons n rest ih => rw [canonicalAll, ih, List.map_cons]

theorem children_canonical (n : Node) :
    n.canonical.children = n.children.map canonical := by
  cases n with
  | text t => rfl
  | _ => exact canonicalAll_eq_map _

theorem tag?_canonical (n : Node) : n.canonical.tag? = n.tag? := by
  cases n <;> rfl

mutual

theorem textContent_canonical (n : Node) :
    n.canonical.textContent = n.textContent := by
  cases n with
  | text t => rfl
  | element tag attrs cs => exact textContents_canonicalAll cs
  | component ref props cs => exact textContents_canonicalAll cs
  | fragment cs => exact textContents_canonicalAll cs
termination_by structural n

theorem textContents_canonicalAll (ns : List Node) :
    textContents (canonicalAll ns) = textContents ns := by
  cases ns with
  | nil => rfl
  | cons n rest =>
      rw [canonicalAll, textContents, textContents, textContent_canonical n,
        textContents_canonicalAll rest]
termination_by structural ns

end

theorem outline_canonical (n : Node) : n.canonical.outline = n.outline := by
  rw [outline, textContent_canonical, tag?_canonical, children_canonical,
    List.length_map]
  rfl

/-- Each node of a canonical tree stands where it stood. -/
theorem at?_canonical (n : Node) (path : List Nat) :
    n.canonical.at? path = (n.at? path).map canonical := by
  induction path generalizing n with
  | nil => rfl
  | cons place path ih =>
      rw [at?, at?, children_canonical, List.getElem?_map]
      cases n.children[place]? with
      | none => rfl
      | some c => exact ih c

/-- Equal trees have nodes at the same positions, with the same texts,
tags and numbers of children. -/
theorem outline_at?_of_same {a b : Node} (ha : a.Tidy) (hb : b.Tidy)
    (h : a.same b = true) (path : List Nat) :
    (a.at? path).map outline = (b.at? path).map outline := by
  have hread : ∀ n : Node, (n.at? path).map outline
      = (n.canonical.at? path).map outline := by
    intro n
    rw [at?_canonical, Option.map_map]
    exact congrArg (Option.map · _)
      (funext fun m => (outline_canonical m).symm)
  rw [hread a, hread b, (same_iff_canonical a b ha hb).1 h]

-- ========================================================== main result

/-- Equality of tidy trees is identity up to the order of names, at every
depth, and up to the sign of zeros; so it is an equivalence, and equal
trees have equal texts, tags and numbers of children at every position. -/
theorem same_up_to_order :
    (∀ a b : Node, a.Tidy → b.Tidy →
        (a.same b = true ↔ a.canonical = b.canonical))
      ∧ (Equivalence fun a b : {n : Node // n.Tidy} =>
          a.1.same b.1 = true)
      ∧ ∀ a b : Node, a.Tidy → b.Tidy → a.same b = true → ∀ path,
          (a.at? path).map outline = (b.at? path).map outline :=
  ⟨same_iff_canonical, same_equivalence,
    fun _ _ ha hb h path => outline_at?_of_same ha hb h path⟩

/-- Names in another order, a zero with a sign, and the same handle. -/
theorem reordered_panel_same :
    let zero (negative : Bool) : Value :=
      .number (.float ⟨negative, ⟨0, by decide⟩⟩)
    let panel : ComponentRef := ⟨0, "Panel", some 3⟩
    let written := component panel
      (.ofList [("at", .object [("x", zero false), ("y", .null)]),
        ("size", .int 1)]) [text "t"]
    let reordered := component panel
      (.ofList [("size", .int 1),
        ("at", .object [("y", .null), ("x", zero true)])]) [text "t"]
    written.Tidy ∧ reordered.Tidy ∧ written.same reordered = true
      ∧ written.canonical = reordered.canonical
      ∧ reordered.same written = true
      ∧ (written.at? [0]).map outline = (reordered.at? [0]).map outline := by
  intro zero panel written reordered
  have hwritten : written.Tidy :=
    ⟨Value.tidyFields_iff.1
      ⟨⟨by decide, trivial, trivial, trivial⟩, trivial, trivial⟩,
      trivial, trivial⟩
  have hreordered : reordered.Tidy :=
    ⟨Value.tidyFields_iff.1
      ⟨trivial, ⟨by decide, trivial, trivial, trivial⟩, trivial⟩,
      trivial, trivial⟩
  have hsame : written.same reordered = true := by decide
  exact ⟨hwritten, hreordered, hsame,
    (same_up_to_order.1 _ _ hwritten hreordered).1 hsame,
    same_up_to_order.2.1.symm (x := ⟨written, hwritten⟩)
      (y := ⟨reordered, hreordered⟩) hsame,
    same_up_to_order.2.2 _ _ hwritten hreordered hsame [0]⟩

end RuledList.Node
