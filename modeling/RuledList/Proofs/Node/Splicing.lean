/-
Fragments are transparent. A fragment in a list of children stands for
its own children, so `splice` puts them in its place, at every depth. The
text of a tree does not change by that, and its markup changes in one
case only: where an element or an invocation has children and all of them
come to nothing (`isHollow`). It has an opening and a closing tag then,
and closes itself once the children are spliced.

# Counting characters

Every hollow node is seen in the markup, however much of the tree looks
like it. Lines cannot be compared for that: a text may run over several
of them and hold what reads as a tag. But splicing never makes the lines
longer, and each hollow node makes them shorter by at least two
characters (`weight_splice_le`). One character would not do, since the
markup of no lines is as long as that of one empty line.
-/
import RuledList.Node.Markup

namespace RuledList

/-- The name in the tags of what is instantiated. -/
def Target.name : Target → String
  | .tag name => name
  | .component ref => ref.name

namespace Node

-- ============================================================= splicing

/-- What a node is worth in a list of children: a fragment, the children
that it holds. -/
def unwrapped : Node → List Node
  | .fragment cs => cs
  | n => [n]

mutual

/-- A node with the fragments among its children spliced, at every
depth. -/
def splice : Node → Node
  | .element tag attrs cs => .element tag attrs (spliceAll cs)
  | .component ref props cs => .component ref props (spliceAll cs)
  | .text t => .text t
  | .fragment cs => .fragment (spliceAll cs)
termination_by structural n => n

/-- Children with each fragment replaced by its own spliced children. -/
def spliceAll : List Node → List Node
  | [] => []
  | n :: rest => unwrapped (splice n) ++ spliceAll rest
termination_by structural ns => ns

end

mutual

/-- A node and all nodes below it, in document order. -/
def subtrees : Node → List Node
  | .element tag attrs cs => .element tag attrs cs :: subtreesAll cs
  | .component ref props cs => .component ref props cs :: subtreesAll cs
  | .text t => [.text t]
  | .fragment cs => .fragment cs :: subtreesAll cs
termination_by structural n => n

/-- The nodes of several trees. -/
def subtreesAll : List Node → List Node
  | [] => []
  | n :: rest => subtrees n ++ subtreesAll rest
termination_by structural ns => ns

end

/-- Whether a node is an element or an invocation with children of which
splicing leaves none. -/
def isHollow (n : Node) : Bool :=
  !n.isFragment && !n.children.isEmpty && (spliceAll n.children).isEmpty

-- ============================================================ induction

/-- Induction on trees in which elements and invocations are one case. -/
theorem induct {P : Node → Prop} {Q : List Node → Prop}
    (create : ∀ target attrs cs, Q cs → P (create target attrs cs))
    (text : ∀ t, P (.text t))
    (fragment : ∀ cs, Q cs → P (.fragment cs))
    (nil : Q [])
    (cons : ∀ n rest, P n → Q rest → Q (n :: rest)) (n : Node) : P n :=
  @Node.rec P Q (fun tag => create (.tag tag))
    (fun ref => create (.component ref)) text fragment nil cons n

section Created

variable (target : Target) (attrs : Props) (cs : List Node)

theorem splice_create :
    (create target attrs cs).splice
      = create target attrs (spliceAll cs) := by
  cases target <;> rfl

theorem subtrees_create :
    (create target attrs cs).subtrees
      = create target attrs cs :: subtreesAll cs := by
  cases target <;> rfl

theorem isHollow_create :
    (create target attrs cs).isHollow
      = (!cs.isEmpty && (spliceAll cs).isEmpty) := by
  cases target <;> rfl

theorem textContent_create :
    (create target attrs cs).textContent = textContents cs := by
  cases target <;> rfl

theorem unwrapped_create :
    (create target attrs cs).unwrapped = [create target attrs cs] := by
  cases target <;> rfl

end Created

theorem subtreesAll_append (ms ns : List Node) :
    subtreesAll (ms ++ ns) = subtreesAll ms ++ subtreesAll ns := by
  induction ms with
  | nil => rfl
  | cons m ms ih =>
      rw [List.cons_append, subtreesAll, subtreesAll, ih,
        List.append_assoc]

/-- Splicing leaves no fragment in a list of children, nor anywhere
below. -/
theorem isFragment_of_mem_unwrapped_splice (n : Node) :
    ∀ m ∈ subtreesAll n.splice.unwrapped, m.isFragment = false := by
  refine induct
    (P := fun n => ∀ m ∈ subtreesAll n.splice.unwrapped,
      m.isFragment = false)
    (Q := fun ns => ∀ m ∈ subtreesAll (spliceAll ns),
      m.isFragment = false)
    ?create ?text ?fragment ?nil ?cons n
  case create =>
    intro target attrs cs ih
    rw [splice_create, unwrapped_create, subtreesAll, subtrees_create,
      List.forall_mem_append, List.forall_mem_cons]
    refine ⟨⟨?_, ih⟩, List.forall_mem_nil _⟩
    cases target <;> rfl
  case text =>
    intro t m hm
    obtain rfl := List.mem_singleton.1 hm
    rfl
  case fragment => exact fun cs ih => ih
  case nil => exact List.forall_mem_nil _
  case cons =>
    intro n rest ih ihrest
    rw [spliceAll, subtreesAll_append, List.forall_mem_append]
    exact ⟨ih, ihrest⟩

-- ================================================================= text

theorem textContents_append (ms ns : List Node) :
    textContents (ms ++ ns) = textContents ms ++ textContents ns := by
  induction ms with
  | nil => exact String.empty_append.symm
  | cons m ms ih =>
      rw [List.cons_append, textContents, textContents, ih,
        String.append_assoc]

theorem textContents_unwrapped (n : Node) :
    textContents n.unwrapped = n.textContent := by
  cases n with
  | fragment cs => rfl
  | _ => exact String.append_empty

/-- Splicing keeps the text of a tree. -/
theorem textContent_splice (n : Node) :
    n.splice.textContent = n.textContent := by
  refine induct (P := fun n => n.splice.textContent = n.textContent)
    (Q := fun ns => textContents (spliceAll ns) = textContents ns)
    ?create ?text ?fragment ?nil ?cons n
  case create =>
    intro target attrs cs ih
    rw [splice_create, textContent_create, textContent_create, ih]
  case text => exact fun t => rfl
  case fragment => exact fun cs ih => ih
  case nil => rfl
  case cons =>
    intro n rest ih ihrest
    rw [spliceAll, textContents_append, textContents_unwrapped, ih, ihrest,
      textContents]

-- ================================================================ lines

section Lines

variable (target : Target) (attrs : Props) (depth : Nat)

theorem lines_create_nil :
    (create target attrs []).lines depth
      = [indent depth ++ "<" ++ target.name ++ attrs.attrsText
          ++ " />"] := by
  cases target <;> rfl

theorem lines_create {cs : List Node} (h : cs ≠ []) :
    (create target attrs cs).lines depth
      = [indent depth ++ "<" ++ target.name ++ attrs.attrsText ++ ">"]
        ++ linesAll cs (depth + 1)
        ++ [indent depth ++ "</" ++ target.name ++ ">"] := by
  cases cs with
  | nil => exact absurd rfl h
  | cons c cs => cases target <;> rfl

end Lines

theorem linesAll_append (ms ns : List Node) (depth : Nat) :
    linesAll (ms ++ ns) depth = linesAll ms depth ++ linesAll ns depth := by
  induction ms with
  | nil => rfl
  | cons m ms ih =>
      rw [List.cons_append, linesAll, linesAll, ih, List.append_assoc]

theorem linesAll_unwrapped (n : Node) (depth : Nat) :
    linesAll n.unwrapped depth = n.lines depth := by
  cases n with
  | fragment cs => rfl
  | _ => exact List.append_nil _

/-- What a node is spliced to has the lines of the spliced node. -/
theorem linesAll_spliceAll_cons (n : Node) (rest : List Node)
    (depth : Nat) :
    linesAll (spliceAll (n :: rest)) depth
      = n.splice.lines depth ++ linesAll (spliceAll rest) depth := by
  rw [spliceAll, linesAll_append, linesAll_unwrapped]

/-- Splicing keeps the lines of a tree without hollow nodes. -/
theorem lines_splice {n : Node}
    (h : ∀ m ∈ n.subtrees, m.isHollow = false) (depth : Nat) :
    n.splice.lines depth = n.lines depth := by
  refine induct (P := fun n => (∀ m ∈ n.subtrees, m.isHollow = false) →
      ∀ depth, n.splice.lines depth = n.lines depth)
    (Q := fun ns => (∀ m ∈ subtreesAll ns, m.isHollow = false) →
      ∀ depth, linesAll (spliceAll ns) depth = linesAll ns depth)
    ?create ?text ?fragment ?nil ?cons n h depth
  case create =>
    intro target attrs cs ih h depth
    rw [subtrees_create, List.forall_mem_cons, isHollow_create] at h
    obtain ⟨hfull, hbelow⟩ := h
    rw [splice_create]
    by_cases hcs : cs = []
    · rw [hcs, spliceAll]
    · have hspliced : spliceAll cs ≠ [] := by
        simpa [hcs] using hfull
      rw [lines_create _ _ _ hspliced, lines_create _ _ _ hcs,
        ih hbelow]
  case text => exact fun t _ depth => rfl
  case fragment =>
    exact fun cs ih h depth => ih (List.forall_mem_cons.1 h).2 depth
  case nil => exact fun _ depth => rfl
  case cons =>
    intro n rest ih ihrest h depth
    obtain ⟨hhead, htail⟩ := List.forall_mem_append.1 h
    rw [linesAll_spliceAll_cons, ih hhead, ihrest htail, linesAll]

-- ============================================================== lengths

/-- The characters in lines, with a line break at the end of each. -/
def weight : List String → Nat
  | [] => 0
  | l :: ls => l.length + 1 + weight ls

@[simp] theorem weight_nil : weight [] = 0 := rfl

@[simp] theorem weight_cons (l : String) (ls : List String) :
    weight (l :: ls) = l.length + 1 + weight ls := rfl

@[simp] theorem weight_append (ks ls : List String) :
    weight (ks ++ ls) = weight ks + weight ls := by
  induction ks with
  | nil => exact (Nat.zero_add _).symm
  | cons k ks ih =>
      rw [List.cons_append, weight_cons, weight_cons, ih]
      omega

theorem length_indent (depth : Nat) :
    (indent depth).length = 2 * depth := by
  simp [indent]

/-- The last line has no line break. -/
theorem length_intercalate (ls : List String) :
    ("\n".intercalate ls).length = weight ls - 1 := by
  induction ls with
  | nil => rfl
  | cons l ls ih =>
      cases ls with
      | nil => simp
      | cons l' ls =>
          have hbreak : "\n".length = 1 := rfl
          rw [String.intercalate_cons_cons, String.length_append,
            String.length_append, ih, hbreak, weight_cons l, weight_cons l']
          omega

section Tags

variable (target : Target) (attrs : Props) (depth : Nat)

theorem weight_lines_create_nil :
    weight ((create target attrs []).lines depth)
      = 2 * depth + target.name.length + attrs.attrsText.length + 5 := by
  have hopen : "<".length = 1 := rfl
  have hclose : " />".length = 3 := rfl
  rw [lines_create_nil, weight_cons, weight_nil]
  simp only [String.length_append, length_indent, hopen, hclose]
  omega

theorem weight_lines_create {cs : List Node} (h : cs ≠ []) :
    weight ((create target attrs cs).lines depth)
      = 4 * depth + 2 * target.name.length + attrs.attrsText.length + 7
        + weight (linesAll cs (depth + 1)) := by
  have hopen : "<".length = 1 := rfl
  have hend : "</".length = 2 := rfl
  have hclose : ">".length = 1 := rfl
  rw [lines_create _ _ _ h, weight_append, weight_append, weight_cons,
    weight_nil, weight_cons, weight_nil]
  simp only [String.length_append, length_indent, hopen, hend, hclose]
  omega

end Tags

/-- Splicing makes no tree longer, and each of its hollow nodes makes it
shorter. -/
theorem weight_splice_le (n : Node) (depth : Nat) :
    weight (n.splice.lines depth) + 2 * n.subtrees.countP isHollow
      ≤ weight (n.lines depth) := by
  refine induct (P := fun n => ∀ depth, weight (n.splice.lines depth)
        + 2 * n.subtrees.countP isHollow ≤ weight (n.lines depth))
    (Q := fun ns => ∀ depth, weight (linesAll (spliceAll ns) depth)
        + 2 * (subtreesAll ns).countP isHollow
      ≤ weight (linesAll ns depth))
    ?create ?text ?fragment ?nil ?cons n depth
  case create =>
    intro target attrs cs ih depth
    have hbelow := ih (depth + 1)
    rw [subtrees_create, List.countP_cons, isHollow_create, splice_create]
    by_cases hcs : cs = []
    · rw [hcs, spliceAll, subtreesAll]
      simp
    · rw [weight_lines_create _ _ _ hcs]
      by_cases hspliced : spliceAll cs = []
      · -- one tag in place of two
        rw [hspliced] at hbelow ⊢
        rw [weight_lines_create_nil]
        simp [hcs]
        omega
      · rw [weight_lines_create _ _ _ hspliced]
        simp [hspliced]
        omega
  case text => exact fun t depth => Nat.le_refl _
  case fragment =>
    intro cs ih depth
    rw [subtrees, List.countP_cons]
    exact ih depth
  case nil => exact fun depth => Nat.le_refl _
  case cons =>
    intro n rest ih ihrest depth
    have hhead := ih depth
    have htail := ihrest depth
    rw [linesAll_spliceAll_cons, linesAll, subtreesAll, weight_append,
      weight_append, List.countP_append]
    omega

theorem markup_splice_iff (t : Node) :
    t.splice.markup = t.markup ↔ ∀ n ∈ t.subtrees, n.isHollow = false := by
  constructor
  · intro h
    have hlength := congrArg String.length h
    rw [markup, markup, length_intercalate, length_intercalate] at hlength
    have hweight := weight_splice_le t 0
    have hnone : t.subtrees.countP isHollow = 0 := by omega
    simpa using List.countP_eq_zero.1 hnone
  · intro h
    rw [markup, markup, lines_splice h]

-- ========================================================== main result

/-- Fragments are transparent: splicing them keeps the text of a tree,
and keeps its markup exactly if no element or invocation in the tree has
children that are spliced to nothing. -/
theorem fragments_transparent (t : Node) :
    t.splice.textContent = t.textContent
      ∧ (t.splice.markup = t.markup
        ↔ ∀ n ∈ t.subtrees, n.isHollow = false) :=
  ⟨textContent_splice t, markup_splice_iff t⟩

/-- A list that holds nothing but an empty fragment has two tags, and one
once it is spliced. -/
example :
    let t := element "ul" .empty [.fragment []]
    t.isHollow = true ∧ t.markup = "<ul>\n</ul>"
      ∧ t.splice.markup = "<ul />" := by
  cbv

end Node

end RuledList
