/-
A markup determines its tree. That is so for trees of elements and texts
whose names, values and texts the markup shows whole (`Node.Plain`); a
text may be empty there, and may begin with blanks, so that its line looks
as if it stood deeper than it does.

# How a tree is found in its lines

Whoever reads the lines from the top knows at which depth the next node
has to stand. The indentation of that depth is taken off, and what is left
is a tag exactly if it begins with an angle bracket, however many blanks
stand before the bracket in the text of another line. A tag says whether
it closes itself (`tagText_inj`), and if it does not, its children go on
for as long as lines are indented to their depth: the line that closes the
element is not (`Shallow`).

So the lines of a node tell which node it is and where they end
(`lines_append_inj`), whatever lines follow, and the lines of siblings do
so if what follows is less deep (`linesAll_append_inj`).
-/
import RuledList.Proofs.Node.TagText

namespace RuledList.Node

-- ========================================================== plain trees

mutual

/-- Whether the markup of a tree shows all of it: its nodes are elements
and texts, in one line each. -/
def Plain : Node → Prop
  | .element tag attrs cs => Legible tag ∧ attrs.Plain ∧ PlainAll cs
  | .component _ _ _ => False
  | .text t => '\n' ∉ t.toList ∧ t.toList.head? ≠ some '<'
  | .fragment _ => False
termination_by structural n => n

/-- Whether the markup of several trees shows all of them. -/
def PlainAll : List Node → Prop
  | [] => True
  | n :: rest => Plain n ∧ PlainAll rest
termination_by structural ns => ns

end

-- =============================================================== depths

theorem toList_indent (depth : Nat) :
    (indent depth).toList = List.replicate (2 * depth) ' ' :=
  String.toList_ofList

/-- Lines of one depth differ behind their indentation. -/
theorem indent_append_inj {depth : Nat} {s t : String}
    (h : indent depth ++ s = indent depth ++ t) : s = t := by
  have hchars := congrArg String.toList h
  rw [String.toList_append, String.toList_append] at hchars
  exact String.toList_inj.1 (List.append_cancel_left hchars)

/-- Whether the first of some lines, if there is one, is not indented to a
depth. -/
def Shallow (depth : Nat) (ls : List String) : Prop :=
  ∀ l ∈ ls.head?, ∀ s, l ≠ indent depth ++ s

/-- The line that closes an element is less deep than the children. -/
theorem shallow_closing (depth : Nat) (tag : String) (ls : List String) :
    Shallow (depth + 1) ((indent depth ++ "</" ++ tag ++ ">") :: ls) := by
  intro l hl s heq
  cases hl
  have hchars := congrArg String.toList heq
  have hdeeper : (indent (depth + 1)).toList
      = (indent depth).toList ++ [' ', ' '] := by
    rw [toList_indent, toList_indent, Nat.mul_add, List.replicate_add]
    rfl
  simp only [String.toList_append, hdeeper, List.append_assoc] at hchars
  cases List.append_cancel_left hchars

-- ================================================================ lines

/-- The lines of an element behind its first. -/
def linesBelow (tag : String) (cs : List Node) (depth : Nat) :
    List String :=
  if cs.isEmpty then []
  else linesAll cs (depth + 1) ++ [indent depth ++ "</" ++ tag ++ ">"]

theorem lines_element (tag : String) (attrs : Props) (cs : List Node)
    (depth : Nat) :
    lines (.element tag attrs cs) depth
      = (indent depth ++ tagText tag attrs cs.isEmpty)
        :: linesBelow tag cs depth := by
  cases cs <;> simp [lines, tagText, tagEnd, linesBelow, String.append_assoc]

/-- The first line of a plain tree is indented to the depth of the
tree. -/
theorem head_lines {n : Node} (h : n.Plain) (depth : Nat) :
    ∃ s rest, n.lines depth = (indent depth ++ s) :: rest := by
  cases n with
  | element tag attrs cs => exact ⟨_, _, lines_element tag attrs cs depth⟩
  | component ref props cs => exact h.elim
  | text t => exact ⟨t, [], rfl⟩
  | fragment cs => exact h.elim

/-- Plain siblings do not begin less deep than they stand. -/
theorem not_shallow_linesAll {n : Node} (h : n.Plain) (ns : List Node)
    (depth : Nat) (ls : List String) :
    ¬ Shallow depth (linesAll (n :: ns) depth ++ ls) := by
  obtain ⟨s, rest, hn⟩ := head_lines h depth
  have hhead : (linesAll (n :: ns) depth ++ ls).head?
      = some (indent depth ++ s) := by
    rw [linesAll, hn]
    rfl
  exact fun hshallow => hshallow _ hhead s rfl

/-- A plain text is no tag. -/
theorem text_ne_tagText {t : String} (h : (text t).Plain) (tag : String)
    (attrs : Props) (closed : Bool) : t ≠ tagText tag attrs closed := by
  intro heq
  refine h.2 ?_
  rw [heq, toList_tagText]
  rfl

-- ============================================================= decoding

mutual

/-- The lines of a plain tree tell which tree it is and where they
end. -/
theorem lines_append_inj (n m : Node) (hn : n.Plain) (hm : m.Plain)
    {depth : Nat} {ks ls : List String}
    (h : n.lines depth ++ ks = m.lines depth ++ ls) : n = m ∧ ks = ls := by
  cases n with
  | component ref props cs => exact hn.elim
  | fragment cs => exact hn.elim
  | text t =>
      cases m with
      | component ref props cs => exact hm.elim
      | fragment cs => exact hm.elim
      | text u =>
          obtain ⟨hline, hrest⟩ := List.cons.inj h
          exact ⟨congrArg text (indent_append_inj hline), hrest⟩
      | element tag attrs cs =>
          rw [lines_element] at h
          exact absurd (indent_append_inj (List.cons.inj h).1)
            (text_ne_tagText hn tag attrs _)
  | element tag attrs cs =>
      cases m with
      | component ref props cs => exact hm.elim
      | fragment cs => exact hm.elim
      | text u =>
          rw [lines_element] at h
          exact absurd (indent_append_inj (List.cons.inj h).1).symm
            (text_ne_tagText hm tag attrs _)
      | element tag' attrs' cs' =>
          obtain ⟨htag, hattrs, hcs⟩ := hn
          obtain ⟨htag', hattrs', hcs'⟩ := hm
          rw [lines_element, lines_element, List.cons_append,
            List.cons_append] at h
          obtain ⟨hline, hbelow⟩ := List.cons.inj h
          obtain ⟨rfl, rfl, hempty⟩ := tagText_inj htag htag' hattrs
            hattrs' (indent_append_inj hline)
          unfold linesBelow at hbelow
          rw [← hempty] at hbelow
          split at hbelow
          · next hnone =>
            rw [hnone] at hempty
            rw [List.isEmpty_iff.1 hnone, List.isEmpty_iff.1 hempty.symm]
            exact ⟨rfl, hbelow⟩
          · rw [List.append_assoc, List.append_assoc] at hbelow
            obtain ⟨rfl, hclosing⟩ := linesAll_append_inj cs cs' hcs hcs'
              (shallow_closing depth tag ks) (shallow_closing depth tag ls)
              hbelow
            exact ⟨rfl, (List.cons.inj hclosing).2⟩
termination_by structural n

/-- The lines of plain siblings tell which they are and where they end,
if less deep lines follow. -/
theorem linesAll_append_inj (ns ms : List Node) (hns : PlainAll ns)
    (hms : PlainAll ms) {depth : Nat} {ks ls : List String}
    (hks : Shallow depth ks) (hls : Shallow depth ls)
    (h : linesAll ns depth ++ ks = linesAll ms depth ++ ls) :
    ns = ms ∧ ks = ls := by
  cases ns with
  | nil =>
      cases ms with
      | nil => exact ⟨rfl, h⟩
      | cons m ms =>
          have hks' : ks = linesAll (m :: ms) depth ++ ls := h
          exact absurd (hks' ▸ hks) (not_shallow_linesAll hms.1 ms depth ls)
  | cons n ns =>
      cases ms with
      | nil =>
          have hls' : ls = linesAll (n :: ns) depth ++ ks := h.symm
          exact absurd (hls' ▸ hls) (not_shallow_linesAll hns.1 ns depth ks)
      | cons m ms =>
          rw [linesAll, linesAll, List.append_assoc, List.append_assoc] at h
          obtain ⟨rfl, hrest⟩ := lines_append_inj n m hns.1 hms.1 h
          obtain ⟨rfl, hend⟩ := linesAll_append_inj ns ms hns.2 hms.2 hks
            hls hrest
          exact ⟨rfl, hend⟩
termination_by structural ns

end

-- ============================================================== joining

theorem newline_not_mem_indent_append {depth : Nat} {s : String}
    (h : '\n' ∉ s.toList) : '\n' ∉ (indent depth ++ s).toList := by
  rw [String.toList_append, toList_indent, List.mem_append, not_or]
  exact ⟨fun hin => (nomatch List.eq_of_mem_replicate hin), h⟩

mutual

/-- No line of a plain tree is broken. -/
theorem newline_not_mem_lines (n : Node) (h : n.Plain) (depth : Nat) :
    ∀ l ∈ n.lines depth, '\n' ∉ l.toList := by
  cases n with
  | component ref props cs => exact h.elim
  | fragment cs => exact h.elim
  | text t =>
      exact List.forall_mem_singleton.2 (newline_not_mem_indent_append h.1)
  | element tag attrs cs =>
      obtain ⟨htag, hattrs, hcs⟩ := h
      rw [lines_element, List.forall_mem_cons]
      refine ⟨newline_not_mem_indent_append
        (newline_not_mem_tagText htag hattrs _), ?_⟩
      unfold linesBelow
      split
      · exact List.forall_mem_nil _
      · refine List.forall_mem_append.2
          ⟨newline_not_mem_linesAll cs hcs (depth + 1),
            List.forall_mem_singleton.2 ?_⟩
        have hname : '\n' ∉ tag.toList := fun hc => nomatch htag _ hc
        rw [String.append_assoc, String.append_assoc]
        apply newline_not_mem_indent_append
        simp [hname]
termination_by structural n

theorem newline_not_mem_linesAll (ns : List Node) (h : PlainAll ns)
    (depth : Nat) : ∀ l ∈ linesAll ns depth, '\n' ∉ l.toList := by
  cases ns with
  | nil => exact List.forall_mem_nil _
  | cons n ns =>
      exact List.forall_mem_append.2 ⟨newline_not_mem_lines n h.1 depth,
        newline_not_mem_linesAll ns h.2 depth⟩
termination_by structural ns

end

/-- The lines of a plain tree are read off its markup. -/
theorem splitOn_markup {n : Node} (h : n.Plain) :
    n.markup.toList.splitOn '\n' = (n.lines 0).map String.toList := by
  obtain ⟨s, rest, hn⟩ := head_lines h 0
  have hbreak : "\n".toList = ['\n'] := rfl
  rw [markup, String.toList_intercalate, hbreak]
  refine List.splitOn_intercalate '\n' ?_ (by simp [hn])
  exact List.forall_mem_map.2 (newline_not_mem_lines n h 0)

theorem markup_inj {s t : Node} (hs : s.Plain) (ht : t.Plain)
    (h : s.markup = t.markup) : s = t := by
  have hlines : s.lines 0 = t.lines 0 := by
    refine List.map_injective_iff.2 (fun _ _ => String.toList_inj.1) ?_
    rw [← splitOn_markup hs, ← splitOn_markup ht, h]
  have hends : s.lines 0 ++ [] = t.lines 0 ++ [] := by rw [hlines]
  exact (lines_append_inj s t hs ht hends).1

-- ========================================================== main result

/-- A markup determines its tree. Identifiers are legible names, and among
the trees of elements and texts with such names, plain values and unbroken
texts that begin with no angle bracket, two have the same markup only if
they are identical. -/
theorem markup_determines_tree :
    (∀ name, IsIdentifier name → Legible name)
      ∧ ∀ s t : Node, s.Plain → t.Plain →
        (s.markup = t.markup ↔ s = t) :=
  ⟨fun _ => legible_of_identifier, fun _ _ hs ht =>
    ⟨markup_inj hs ht, congrArg markup⟩⟩

/-- A string and the number that it spells are shown differently, and a
text that looks like an element in a deeper line is none. -/
theorem spelled_number_shown_apart :
    let spelled := element "li" (.ofList [("n", .string "1")])
      [text "  <b />", text ""]
    let counted := element "li" (.ofList [("n", .int 1)])
      [text "  <b />", text ""]
    IsIdentifier "li" ∧ Legible "li" ∧ spelled.Plain ∧ counted.Plain
      ∧ spelled.markup ≠ counted.markup := by
  intro spelled counted
  have hli : IsIdentifier "li" := ⟨.word "li", rfl⟩
  have hn : Legible "n" := List.all_eq_true.1 (by decide)
  have htexts : PlainAll [text "  <b />", text ""] := by
    refine ⟨⟨?_, ?_⟩, ⟨?_, ?_⟩, trivial⟩ <;> decide
  have hlegible := markup_determines_tree.1 "li" hli
  have hspelled : spelled.Plain := by
    refine ⟨hlegible, List.forall_mem_singleton.2 ⟨hn, ?_, ?_⟩, htexts⟩ <;>
      decide
  have hcounted : counted.Plain :=
    ⟨hlegible, List.forall_mem_singleton.2 ⟨hn, trivial⟩, htexts⟩
  refine ⟨hli, hlegible, hspelled, hcounted, fun h => ?_⟩
  have heq := (markup_determines_tree.2 spelled counted hspelled
    hcounted).1 h
  injection heq with _ hattrs _
  cases congrArg (·.get? "n") hattrs

/-- Nothing is escaped, so a quote in a string can begin what looks like
the next attribute. -/
example :
    (element "p" (.ofList [("a", .string "1\" b=\"2")]) []).markup
      = (element "p" (.ofList [("a", .string "1"), ("b", .string "2")])
        []).markup := by
  decide

end RuledList.Node
