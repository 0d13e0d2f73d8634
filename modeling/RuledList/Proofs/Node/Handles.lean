/-
Trees up to the identity of their references. `Node.anonymous` takes the
handle of every reference away and leaves the rest: which component is
referred to, with which properties and which slot content. Numbering the
references of a tree does not show in what is left, wherever the
numbering begins (`anonymous_issue`), so two passes that differ only in
how many handles were given out before them build the same anonymous
tree. That tree has the markup of the numbered one
(`markup_anonymous`), since handles are not written out.
-/
import RuledList.Component.Config
import RuledList.Node.Markup

namespace RuledList.Node

mutual

/-- A tree without the handles of its references. -/
def anonymous : Node → Node
  | .element tag attrs cs => .element tag attrs (anonymousAll cs)
  | .component ref props cs =>
    .component { ref with handle? := none } props (anonymousAll cs)
  | .text t => .text t
  | .fragment cs => .fragment (anonymousAll cs)
termination_by structural n => n

/-- Several trees without the handles of their references. -/
def anonymousAll : List Node → List Node
  | [] => []
  | n :: rest => anonymous n :: anonymousAll rest
termination_by structural ns => ns

end

theorem issueRef_anonymous (ref : ComponentRef) (next : Nat) :
    { (issueRef ref next).1 with handle? := none }
      = { ref with handle? := none } := by
  unfold issueRef
  cases ref.handle? <;> rfl

mutual

/-- Numbering the references of a tree leaves the anonymous tree. -/
theorem anonymous_issue (n : Node) (next : Nat) :
    (n.issue next).1.anonymous = n.anonymous := by
  cases n with
  | element tag attrs cs =>
      show element tag attrs (anonymousAll (issueAll cs next).1) = _
      rw [anonymousAll_issueAll cs next]
      rfl
  | component ref props cs =>
      show component { (issueRef ref next).1 with handle? := none } props
        (anonymousAll (issueAll cs (issueRef ref next).2).1) = _
      rw [issueRef_anonymous, anonymousAll_issueAll cs _]
      rfl
  | text t => rfl
  | fragment cs =>
      show fragment (anonymousAll (issueAll cs next).1) = _
      rw [anonymousAll_issueAll cs next]
      rfl
termination_by structural n

theorem anonymousAll_issueAll (ns : List Node) (next : Nat) :
    anonymousAll (issueAll ns next).1 = anonymousAll ns := by
  cases ns with
  | nil => rfl
  | cons n rest =>
      show anonymous (n.issue next).1
        :: anonymousAll (issueAll rest (n.issue next).2).1 = _
      rw [anonymous_issue n next, anonymousAll_issueAll rest _]
      rfl
termination_by structural ns

end

/-- Wrapping shows no more of the items than the items do. -/
theorem anonymous_wrap (c : Container) (forwarded : Props)
    {ns ms : List Node} (h : anonymousAll ns = anonymousAll ms) :
    (c.wrap ns forwarded).anonymous = (c.wrap ms forwarded).anonymous := by
  cases c with
  | none => exact congrArg fragment h
  | tag name => exact congrArg (element name OrdMap.empty) h
  | component ref => exact congrArg (component _ forwarded) h

-- ================================================================ markup

mutual

/-- No handle shows in the lines of a tree. -/
theorem lines_anonymous (n : Node) (depth : Nat) :
    n.anonymous.lines depth = n.lines depth := by
  cases n with
  | element tag attrs cs =>
      have hchildren := linesAll_anonymous cs (depth + 1)
      cases cs with
      | nil => rfl
      | cons c rest =>
          rw [anonymousAll] at hchildren
          simp only [anonymous, anonymousAll, lines, hchildren]
  | component ref props cs =>
      have hchildren := linesAll_anonymous cs (depth + 1)
      cases cs with
      | nil => rfl
      | cons c rest =>
          rw [anonymousAll] at hchildren
          simp only [anonymous, anonymousAll, lines, hchildren]
  | text t => rfl
  | fragment cs => exact linesAll_anonymous cs depth
termination_by structural n

theorem linesAll_anonymous (ns : List Node) (depth : Nat) :
    linesAll (anonymousAll ns) depth = linesAll ns depth := by
  cases ns with
  | nil => rfl
  | cons n rest =>
      rw [anonymousAll, linesAll, linesAll, lines_anonymous n depth,
        linesAll_anonymous rest depth]
termination_by structural ns

end

theorem markup_anonymous (n : Node) : n.anonymous.markup = n.markup :=
  congrArg ("\n".intercalate ·) (lines_anonymous n 0)

end RuledList.Node
