/-
Building nodes from pieces is exact. A node cut up again (`Node.pieces`)
is an opening tag, the pieces of its children and a closing tag of the
same name, or a single piece; nodes are built from pieces exactly if
they cut up into those pieces (`Node.ofReading_eq_ok_iff`).

The building stops at the closing tag of the innermost open element.
Both directions therefore speak of pieces followed by others
(`Builds`): what nodes cut up into is built before whatever is built
from the pieces behind (`builds_nodes`), and what is built came from the
pieces up to the place where the building stopped
(`builtFrom_of_forest`).
-/
import RuledList.Proofs.View.Piece
import RuledList.View.Node

namespace RuledList.View.Node

mutual

/-- A node cut up. -/
def pieces : Node → List Piece
  | .element tag attrs children =>
    .opening tag attrs :: (piecesAll children ++ [.closing tag])
  | .single tag attrs => [.single tag attrs]
  | .text value => [.text value]
  | .expr tokens => [.expr tokens]
termination_by structural n => n

/-- Several nodes cut up, one after the other. -/
def piecesAll : List Node → List Piece
  | [] => []
  | n :: rest => pieces n ++ piecesAll rest
termination_by structural ns => ns

end

/-- Pieces build nodes, down to a place with other pieces after it. -/
def Builds (fault? : Option ViewError) (open? : Option Name)
    (ps : List Piece) (nodes : List Node) (after : List Piece) : Prop :=
  ∃ h, forest fault? open? ps = .ok ⟨(nodes, after), h⟩

variable {fault? : Option ViewError} {open? : Option Name}

-- ========================================================= completeness

/-- The closing tag of the innermost open element ends its children. -/
theorem builds_closing (tag : Name) (rest : List Piece) :
    Builds fault? (some tag) (.closing tag :: rest) [] rest := by
  refine ⟨Nat.le_succ _, ?_⟩
  rw [forest]
  exact if_pos rfl

/-- An element is built from its children and goes before what follows
its closing tag. -/
theorem builds_element (tag : Name) (attrs : List Attribute)
    {rest after last : List Piece} {children siblings : List Node}
    (hchildren : Builds fault? (some tag) rest children after)
    (hsiblings : Builds fault? open? after siblings last) :
    Builds fault? open? (.opening tag attrs :: rest)
      (.element tag attrs children :: siblings) last := by
  obtain ⟨h, hforest⟩ := hchildren
  obtain ⟨h', hforest'⟩ := hsiblings
  refine ⟨Nat.le_succ_of_le (Nat.le_trans h' h), ?_⟩
  rw [forest]
  simp only [hforest, hforest']

mutual

/-- What a node cuts up into builds it before what is built behind. -/
theorem builds_node (n : Node) {rest after : List Piece}
    {siblings : List Node} {open? : Option Name}
    (h : Builds fault? open? rest siblings after) :
    Builds fault? open? (n.pieces ++ rest) (n :: siblings) after := by
  cases n with
  | element tag attrs children =>
      -- the closing tag ends the children, and `rest` is left to the
      -- siblings
      have hinner : Builds fault? (some tag)
          (piecesAll children ++ .closing tag :: rest)
          (children ++ []) rest :=
        builds_nodes children (builds_closing tag rest)
      rw [List.append_nil] at hinner
      have houter := builds_element tag attrs hinner h
      simpa [pieces] using houter
  | single tag attrs =>
      obtain ⟨h, hforest⟩ := h
      refine ⟨Nat.le_succ_of_le h, ?_⟩
      show forest fault? open? (.single tag attrs :: rest) = _
      rw [forest]
      simp only [hforest]
      rfl
  | text value =>
      obtain ⟨h, hforest⟩ := h
      refine ⟨Nat.le_succ_of_le h, ?_⟩
      show forest fault? open? (.text value :: rest) = _
      rw [forest]
      simp only [hforest]
      rfl
  | expr tokens =>
      obtain ⟨h, hforest⟩ := h
      refine ⟨Nat.le_succ_of_le h, ?_⟩
      show forest fault? open? (.expr tokens :: rest) = _
      rw [forest]
      simp only [hforest]
      rfl
termination_by structural n

/-- What nodes cut up into builds them before what is built behind. -/
theorem builds_nodes (ns : List Node) {rest after : List Piece}
    {siblings : List Node} {open? : Option Name}
    (h : Builds fault? open? rest siblings after) :
    Builds fault? open? (piecesAll ns ++ rest) (ns ++ siblings)
      after := by
  cases ns with
  | nil => exact h
  | cons n ns =>
      rw [piecesAll, List.append_assoc]
      exact builds_node n (builds_nodes ns h)
termination_by structural ns

end

-- ============================================================ soundness

/-- Which pieces nodes were built from: those the nodes cut up into, and
nothing more, or the closing tag of the open element and what is left
after it. -/
def BuiltFrom (fault? : Option ViewError) (nodes : List Node)
    (after ps : List Piece) : Option Name → Prop
  | none => fault? = none ∧ after = [] ∧ ps = piecesAll nodes
  | some tag => ps = piecesAll nodes ++ .closing tag :: after

theorem BuiltFrom.cons {nodes : List Node} {after ps : List Piece}
    {open? : Option Name} (h : BuiltFrom fault? nodes after ps open?)
    (n : Node) :
    BuiltFrom fault? (n :: nodes) after (n.pieces ++ ps) open? := by
  cases open? with
  | none =>
      obtain ⟨hfault, hafter, rfl⟩ := h
      exact ⟨hfault, hafter, rfl⟩
  | some tag =>
      rw [BuiltFrom] at h ⊢
      rw [h, piecesAll, List.append_assoc]

theorem builtFrom_of_forest {ps : List Piece} :
    ∀ {r : { r : List Node × List Piece // r.2.length ≤ ps.length }},
      forest fault? open? ps = .ok r →
      BuiltFrom fault? r.val.1 r.val.2 ps open? := by
  fun_induction forest fault? open? ps with
  | case3 hfault =>
      rintro r ⟨⟩
      exact ⟨hfault, rfl, rfl⟩
  | case5 _ value rest siblings after _ hforest ih =>
      rintro r ⟨⟩
      exact (ih hforest).cons (.text value)
  | case7 _ tokens rest siblings after _ hforest ih =>
      rintro r ⟨⟩
      exact (ih hforest).cons (.expr tokens)
  | case9 _ tag attrs rest siblings after _ hforest ih =>
      rintro r ⟨⟩
      exact (ih hforest).cons (.single tag attrs)
  | case12 _ tag attrs rest children after _ hinner siblings last _
      houter ihinner ihouter =>
      rintro r ⟨⟩
      have hrest : rest = piecesAll children ++ .closing tag :: after :=
        ihinner hinner
      have hall := (ihouter houter).cons (.element tag attrs children)
      rw [pieces, List.cons_append, List.append_assoc,
        List.singleton_append, ← hrest] at hall
      exact hall
  | case14 rest tag =>
      rintro r ⟨⟩
      rfl
  | _ =>
      -- a fault: nothing is built
      rintro r ⟨⟩

/-- Nodes are built from pieces, with no element left open, exactly if
they cut up into them and no fault lies behind. -/
theorem builds_iff {ps : List Piece} {nodes : List Node} :
    (∃ after, Builds fault? none ps nodes after)
      ↔ fault? = none ∧ ps = piecesAll nodes := by
  constructor
  · rintro ⟨after, h, hforest⟩
    obtain ⟨hfault, -, hps⟩ := builtFrom_of_forest hforest
    exact ⟨hfault, hps⟩
  · rintro ⟨rfl, rfl⟩
    have hend : Builds none none [] [] [] :=
      ⟨Nat.le_refl 0, by rw [forest]⟩
    have hall := builds_nodes nodes hend
    rw [List.append_nil, List.append_nil] at hall
    exact ⟨[], hall⟩

/-- A reading gives nodes exactly if it is without a fault and its
pieces are what they cut up into. -/
theorem ofReading_eq_ok_iff {r : Reading} {nodes : List Node} :
    ofReading r = .ok nodes ↔ r = Reading.faultless (piecesAll nodes) := by
  constructor
  · intro h
    rw [ofReading] at h
    split at h
    · cases h
    · rename_i built after hlen hforest
      split at h
      · rename_i hwhole
        cases h
        obtain ⟨hfault, hps⟩ := builds_iff.1 ⟨after, hlen, hforest⟩
        obtain ⟨ps, fault?, whole⟩ := r
        subst hfault hps hwhole
        rfl
      · cases h
  · rintro rfl
    have hbuilds : ∃ after,
        Builds none none (piecesAll nodes) nodes after :=
      builds_iff.2 ⟨rfl, rfl⟩
    obtain ⟨after, hlen, hforest⟩ := hbuilds
    rw [ofReading, Reading.faultless, hforest]
    rfl

end RuledList.View.Node
