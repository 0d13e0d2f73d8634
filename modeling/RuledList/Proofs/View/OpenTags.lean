/-
Open tags. Read from left to right, a view needs no tree to be judged: a
stack of the tags that are open will do (`openAfter`). An opening tag
goes on the stack, a closing tag takes off the tag that it names, and at
the end the stack is empty. The first piece that cannot be followed
decides what is wrong (`Misnested`): a closing tag that is not the one on
top, one that meets an empty stack, or the end of the view with a tag
left on the stack.

# The simulation

Nodes are built by recursion, which holds the open tags in its calls: a
call knows the tag on top and nothing of those below. If it fails, the
stack fails for the same reason, whatever tags are below
(`complaint?_of_failed`). If it returns, the closing tag took the top
off, and the pieces behind it are left to the rest of the stack
(`complaint?_element`). The induction is on the recursion of the builder,
and a fault of reading may lie beyond the last piece: it is complained of
when nothing before it is wrong.
-/
import RuledList.Proofs.View.Grammar
import RuledList.View.Code.View

namespace RuledList.View

-- ============================================================= the stack

/-- What a piece does to the tags that are open, innermost first. -/
def Piece.track (opened : List Name) : Piece → Except ViewError (List Name)
  | .opening tag _ => .ok (tag :: opened)
  | .closing found =>
    match opened with
    | [] => .error .malformed
    | tag :: outer =>
      if found = tag then .ok outer else .error (.mismatched tag found)
  | .single _ _ => .ok opened
  | .text _ => .ok opened
  | .expr _ => .ok opened

theorem Piece.track_closing_same (tag : Name) (outer : List Name) :
    (Piece.closing tag).track (tag :: outer) = .ok outer :=
  if_pos rfl

theorem Piece.track_closing_other {tag found : Name} (h : found ≠ tag)
    (outer : List Name) :
    (Piece.closing found).track (tag :: outer)
      = .error (.mismatched tag found) :=
  if_neg h

/-- The tags that pieces leave open. -/
def openAfter (opened : List Name) (ps : List Piece) :
    Except ViewError (List Name) :=
  ps.foldlM Piece.track opened

/-- What is wrong first with pieces behind tags that are open, with a
fault that may lie beyond the last piece. -/
def complaint? (fault? : Option ViewError) (opened : List Name)
    (ps : List Piece) : Option ViewError :=
  match openAfter opened ps with
  | .error e => some e
  | .ok left =>
    match fault?, left with
    | some e, _ => some e
    | none, [] => none
    | none, tag :: _ => some (.unclosed tag)

variable {fault? : Option ViewError}

section Following

variable {opened left : List Name}

theorem openAfter_append {before : List Piece}
    (h : openAfter opened before = .ok left) (ps : List Piece) :
    openAfter opened (before ++ ps) = openAfter left ps := by
  unfold openAfter at h ⊢
  rw [List.foldlM_append, h]
  rfl

theorem openAfter_of_track {p : Piece} (h : p.track opened = .ok left)
    (rest : List Piece) :
    openAfter opened (p :: rest) = openAfter left rest := by
  unfold openAfter
  rw [List.foldlM_cons, h]
  rfl

theorem openAfter_of_refused {p : Piece} {e : ViewError}
    (h : p.track opened = .error e) (rest : List Piece) :
    openAfter opened (p :: rest) = .error e := by
  unfold openAfter
  rw [List.foldlM_cons, h]
  rfl

theorem complaint?_append {before : List Piece}
    (h : openAfter opened before = .ok left) (ps : List Piece) :
    complaint? fault? opened (before ++ ps)
      = complaint? fault? left ps := by
  unfold complaint?
  rw [openAfter_append h]

theorem complaint?_of_track {p : Piece} (h : p.track opened = .ok left)
    (rest : List Piece) :
    complaint? fault? opened (p :: rest) = complaint? fault? left rest := by
  unfold complaint?
  rw [openAfter_of_track h]

theorem complaint?_of_refused {p : Piece} {e : ViewError}
    (h : p.track opened = .error e) (rest : List Piece) :
    complaint? fault? opened (p :: rest) = some e := by
  unfold complaint?
  rw [openAfter_of_refused h]

end Following

-- ======================================================= the simulation

namespace Node

mutual

/-- A node closes what it opens. -/
theorem openAfter_pieces (n : Node) (opened : List Name) :
    openAfter opened n.pieces = .ok opened := by
  cases n with
  | element tag attrs children =>
      have hopened : openAfter opened [.opening tag attrs]
          = .ok (tag :: opened) := rfl
      have hchildren := openAfter_piecesAll children (tag :: opened)
      have hclosed := openAfter_of_track
        (Piece.track_closing_same tag opened) []
      rw [pieces, ← List.singleton_append, openAfter_append hopened,
        openAfter_append hchildren, hclosed]
      rfl
  | single tag attrs => rfl
  | text value => rfl
  | expr tokens => rfl
termination_by structural n

/-- Nodes close what they open. -/
theorem openAfter_piecesAll (ns : List Node) (opened : List Name) :
    openAfter opened (piecesAll ns) = .ok opened := by
  cases ns with
  | nil => rfl
  | cons n ns =>
      rw [piecesAll, openAfter_append (openAfter_pieces n opened),
        openAfter_piecesAll ns opened]
termination_by structural ns

end

/-- When the nodes of an element have been followed, its closing tag
leaves what is behind to the tags outside. -/
theorem complaint?_element (ns : List Node) (tag : Name)
    (outer : List Name) (rest : List Piece) :
    complaint? fault? (tag :: outer) (piecesAll ns ++ .closing tag :: rest)
      = complaint? fault? outer rest := by
  rw [complaint?_append (openAfter_piecesAll ns _),
    complaint?_of_track (Piece.track_closing_same tag outer)]

/-- What the builder fails for is what the stack fails for, whatever tags
are open around the element that is being built. -/
theorem complaint?_of_failed {open? : Option Name} {ps : List Piece}
    {e : ViewError} : ∀ {opened : List Name}, opened.head? = open? →
      forest fault? open? ps = .error e →
      complaint? fault? opened ps = some e := by
  fun_induction forest fault? open? ps with
  | case1 open? e hfault =>
      rintro opened - ⟨⟩
      rw [hfault]
      rfl
  | case2 tag hfault =>
      rintro opened htop ⟨⟩
      obtain ⟨outer, rfl⟩ := List.head?_eq_some_iff.1 htop
      rw [hfault]
      rfl
  | case4 open? value rest _ hforest ih =>
      rintro opened htop ⟨⟩
      rw [complaint?_of_track rfl, ih htop hforest]
  | case6 open? tokens rest _ hforest ih =>
      rintro opened htop ⟨⟩
      rw [complaint?_of_track rfl, ih htop hforest]
  | case8 open? tag attrs rest _ hforest ih =>
      rintro opened htop ⟨⟩
      rw [complaint?_of_track rfl, ih htop hforest]
  | case10 open? tag attrs rest _ hinner ih =>
      -- the fault is inside the element
      rintro opened - ⟨⟩
      rw [complaint?_of_track rfl, ih rfl hinner]
  | case11 open? tag attrs rest children after _ hinner _ houter _ ih =>
      -- the element was built, and the fault is behind it
      rintro opened htop ⟨⟩
      have hrest : rest = piecesAll children ++ .closing tag :: after :=
        builtFrom_of_forest hinner
      rw [complaint?_of_track rfl, hrest, complaint?_element,
        ih htop houter]
  | case13 found rest =>
      rintro opened htop ⟨⟩
      obtain rfl := List.head?_eq_none_iff.1 htop
      exact complaint?_of_refused rfl rest
  | case15 found rest tag hne =>
      rintro opened htop ⟨⟩
      obtain ⟨outer, rfl⟩ := List.head?_eq_some_iff.1 htop
      exact complaint?_of_refused (Piece.track_closing_other hne outer) rest
  | _ =>
      -- nodes are built
      rintro opened - ⟨⟩

theorem complaint?_of_built {ps : List Piece}
    {r : { r : List Node × List Piece // r.2.length ≤ ps.length }}
    (h : forest fault? none ps = .ok r) :
    complaint? fault? [] ps = none := by
  obtain ⟨hfault, -, hps⟩ := builtFrom_of_forest h
  unfold complaint?
  rw [hfault, hps, openAfter_piecesAll]

/-- A reading is refused for what the stack fails for. -/
theorem ofReading_of_complaint {r : Reading} {e : ViewError}
    (h : complaint? r.fault? [] r.pieces = some e) :
    ofReading r = .error e := by
  unfold ofReading
  cases hforest : forest r.fault? none r.pieces with
  | error e' =>
      rw [complaint?_of_failed rfl hforest] at h
      cases h
      rfl
  | ok built =>
      rw [complaint?_of_built hforest] at h
      cases h

/-- Pieces that the stack has nothing against come to nodes. -/
theorem exists_ofReading_eq_ok {ps : List Piece}
    (h : complaint? none [] ps = none) :
    ∃ nodes, ofReading (Reading.faultless ps) = .ok nodes := by
  cases hforest : forest none none ps with
  | error e =>
      rw [complaint?_of_failed rfl hforest] at h
      cases h
  | ok built =>
      obtain ⟨-, -, hps⟩ := builtFrom_of_forest hforest
      exact ⟨_, ofReading_eq_ok_iff.2 (congrArg Reading.faultless hps)⟩

end Node

-- ======================================================= first violations

/-- What is wrong first with the nesting of pieces. -/
inductive Misnested : List Piece → ViewError → Prop where
  /-- A closing tag is not that of the innermost open element. -/
  | mismatched {before : List Piece} {tag found : Name}
      {outer : List Name} (after : List Piece)
      (hbefore : openAfter [] before = .ok (tag :: outer))
      (hother : found ≠ tag) :
      Misnested (before ++ .closing found :: after) (.mismatched tag found)
  /-- A closing tag stands where no element is open. -/
  | stray {before : List Piece} (found : Name) (after : List Piece)
      (hbefore : openAfter [] before = .ok []) :
      Misnested (before ++ .closing found :: after) .malformed
  /-- An element is open at the end. -/
  | unclosed {ps : List Piece} {tag : Name} {outer : List Name}
      (hall : openAfter [] ps = .ok (tag :: outer)) :
      Misnested ps (.unclosed tag)

/-- Following pieces fails at the first one that cannot be followed. -/
theorem openAfter_eq_error {e : ViewError} (ps : List Piece) :
    ∀ {opened : List Name}, openAfter opened ps = .error e →
      ∃ before p after left, ps = before ++ p :: after
        ∧ openAfter opened before = .ok left
        ∧ p.track left = .error e := by
  induction ps with
  | nil => rintro opened ⟨⟩
  | cons p rest ih =>
      intro opened h
      cases hp : p.track opened with
      | error e' =>
          rw [openAfter_of_refused hp] at h
          cases h
          exact ⟨[], p, rest, opened, rfl, rfl, hp⟩
      | ok left =>
          rw [openAfter_of_track hp] at h
          obtain ⟨before, bad, after, last, rfl, hbefore, hbad⟩ := ih h
          refine ⟨p :: before, bad, after, last, rfl, ?_, hbad⟩
          rw [openAfter_of_track hp, hbefore]

theorem misnested_of_refused {before : List Piece} {left : List Name}
    {p : Piece} {e : ViewError} (hbefore : openAfter [] before = .ok left)
    (hp : p.track left = .error e) (after : List Piece) :
    Misnested (before ++ p :: after) e := by
  cases p with
  | closing found =>
      cases left with
      | nil =>
          cases hp
          exact .stray found after hbefore
      | cons tag outer =>
          by_cases hsame : found = tag
          · rw [hsame, Piece.track_closing_same] at hp
            cases hp
          · rw [Piece.track_closing_other hsame] at hp
            cases hp
            exact .mismatched after hbefore hsame
  | _ => cases hp

/-- What the stack fails for is what is wrong first. -/
theorem misnested_iff {ps : List Piece} {e : ViewError} :
    Misnested ps e ↔ complaint? none [] ps = some e := by
  constructor
  · intro h
    cases h with
    | mismatched after hbefore hother =>
        rw [complaint?_append hbefore,
          complaint?_of_refused (Piece.track_closing_other hother _)]
    | stray found after hbefore =>
        rw [complaint?_append hbefore, complaint?_of_refused rfl]
    | unclosed hall =>
        unfold complaint?
        rw [hall]
  · intro h
    unfold complaint? at h
    cases hall : openAfter [] ps with
    | error e' =>
        rw [hall] at h
        cases h
        obtain ⟨before, p, after, left, rfl, hbefore, hp⟩ :=
          openAfter_eq_error ps hall
        exact misnested_of_refused hbefore hp after
    | ok left =>
        rw [hall] at h
        cases left with
        | nil => cases h
        | cons tag outer =>
            cases h
            exact .unclosed hall

theorem complaint?_eq_none_iff {ps : List Piece} :
    complaint? none [] ps = none ↔ openAfter [] ps = .ok [] := by
  unfold complaint?
  cases openAfter [] ps with
  | error e => simp
  | ok left => cases left <;> simp

-- ================================================================= views

namespace Reading

variable {reader : ExprReader}

/-- Pieces read before others. -/
theorem ofTokens_append {ps : List Piece} {ts : List Token}
    (h : PiecesWritten reader ps ts) (rest : List Token) :
    ofTokens reader none (ts ++ rest)
      = ps.foldr add (ofTokens reader none rest) := by
  induction h with
  | nil => rfl
  | cons hpiece _ ih =>
      rw [List.append_assoc, ofTokens_piece hpiece, ih]
      rfl

theorem foldr_add (ps : List Piece) (r : Reading) :
    ps.foldr add r = ⟨ps ++ r.pieces, r.fault?, r.whole⟩ := by
  induction ps with
  | nil => rfl
  | cons p ps ih => rw [List.foldr_cons, ih]; rfl

/-- A closing tag is a piece once its name is read. -/
theorem exists_ofTokens_closing (found : Name) (j k : Bool)
    (rest : List Token) :
    ∃ r, ofTokens reader none
      (.punct '<' j :: .punct '/' k :: found.token :: rest)
        = add (.closing found) r := by
  have hname : Name.ofIdent? found.raw found.word = some found :=
    Name.ofIdent?_eq_some.2 rfl
  by_cases hend : ∃ l after, rest = .punct '>' l :: after
  · obtain ⟨l, after, rfl⟩ := hend
    exact ⟨_, ofTokens_piece (.closing found j k l) after⟩
  · rw [Name.token, ofTokens, hname]
    · exact ⟨_, rfl⟩
    · exact fun l after h => hend ⟨l, after, h⟩

/-- What begins as a closing tag is one, or no tag at all. -/
theorem ofTokens_slash (j k : Bool) (rest : List Token) :
    ofTokens reader none (.punct '<' j :: .punct '/' k :: rest)
        = fail .malformed
      ∨ ∃ found r, ofTokens reader none
        (.punct '<' j :: .punct '/' k :: rest)
          = add (.closing found) r := by
  cases rest with
  | nil => exact .inl rfl
  | cons t rest =>
      cases t with
      | ident raw word =>
          cases hname : Name.ofIdent? raw word with
          | some found =>
              rw [← Name.ofIdent?_eq_some.1 hname]
              exact .inr ⟨found, exists_ofTokens_closing found j k rest⟩
          | none =>
              left
              by_cases hend : ∃ l after, rest = .punct '>' l :: after
              · obtain ⟨l, after, rfl⟩ := hend
                rw [ofTokens, hname]
              · rw [ofTokens, hname]
                exact fun l after h => hend ⟨l, after, h⟩
      | _ => exact .inl rfl

end Reading

namespace Node

theorem piecesAll_eq_nil_iff {nodes : List Node} :
    piecesAll nodes = [] ↔ nodes = [] := by
  cases nodes with
  | nil => simp [piecesAll]
  | cons n rest => cases n <;> simp [piecesAll, pieces]

section Views

variable {reader : ExprReader} {ps : List Piece} {ts : List Token}
  (h : PiecesWritten reader ps ts)

include h

/-- Reading a view comes to nodes, or to what the stack complains of. -/
theorem allOfTokens_cases :
    (complaint? none [] ps = none
        ∧ ∃ nodes, allOfTokens reader ts = .ok nodes)
      ∨ ∃ e, complaint? none [] ps = some e
        ∧ allOfTokens reader ts = .error e := by
  rw [allOfTokens, Reading.ofTokens_eq_iff.2 h]
  cases hcomplaint : complaint? none [] ps with
  | none => exact .inl ⟨rfl, exists_ofReading_eq_ok hcomplaint⟩
  | some e =>
      have herror : ofReading (Reading.faultless ps) = .error e :=
        ofReading_of_complaint hcomplaint
      exact .inr ⟨e, rfl, herror⟩

theorem exists_allOfTokens_iff :
    (∃ nodes, allOfTokens reader ts = .ok nodes)
      ↔ openAfter [] ps = .ok [] := by
  rw [← complaint?_eq_none_iff]
  rcases allOfTokens_cases h with ⟨hnone, hread⟩ | ⟨e, hsome, herror⟩
  · exact iff_of_true hread hnone
  · simp [hsome, herror]

theorem allOfTokens_eq_error_iff {e : ViewError} :
    allOfTokens reader ts = .error e ↔ Misnested ps e := by
  rw [misnested_iff]
  rcases allOfTokens_cases h with
    ⟨hnone, nodes, hread⟩ | ⟨e', hsome, herror⟩
  · simp [hnone, hread]
  · simp [hsome, herror]

/-- Making code of a view fails as reading it does, and if there is
nothing in it. -/
theorem code_ofTokens_eq_error_iff {e : ViewError} :
    Code.ofTokens reader ts = .error e
      ↔ Misnested ps e ∨ ps = [] ∧ e = .noNodes := by
  rw [← allOfTokens_eq_error_iff h, Code.ofTokens, ofTokens]
  cases hall : allOfTokens reader ts with
  | error e' =>
      have hsome : ps ≠ [] := by
        rintro rfl
        have hnested := (exists_allOfTokens_iff h).2 rfl
        obtain ⟨nodes, hnodes⟩ := hnested
        rw [hnodes] at hall
        cases hall
      simp [Except.map, hsome]
  | ok nodes =>
      have hps : ps = piecesAll nodes := by
        have hreading := Reading.ofTokens_eq_iff.2 h
        rw [allOfTokens, hreading, ofReading_eq_ok_iff] at hall
        exact congrArg Reading.pieces hall
      cases nodes with
      | nil => simp [Except.map, hps, piecesAll, eq_comm]
      | cons n rest =>
          have hsome : ps ≠ [] := by
            rw [hps, Ne, piecesAll_eq_nil_iff]
            exact List.cons_ne_nil n rest
          simp [Except.map, hsome]

/-- What is wrong with tokens behind pieces that can be followed is wrong
with the whole. -/
theorem allOfTokens_behind {left : List Name}
    (hleft : openAfter [] ps = .ok left) {rest : List Token} {r : Reading}
    (hrest : Reading.ofTokens reader none rest = r) {e : ViewError}
    (he : complaint? r.fault? left r.pieces = some e) :
    allOfTokens reader (ts ++ rest) = .error e := by
  rw [allOfTokens, Reading.ofTokens_append h, hrest, Reading.foldr_add]
  refine ofReading_of_complaint ?_
  rw [complaint?_append hleft]
  exact he

/-- Outside of every element a tag that begins with a slash is refused,
whatever its name. -/
theorem allOfTokens_stray (hleft : openAfter [] ps = .ok []) (j k : Bool)
    (rest : List Token) :
    allOfTokens reader (ts ++ .punct '<' j :: .punct '/' k :: rest)
      = .error .malformed := by
  rcases @Reading.ofTokens_slash reader j k rest with
    hrest | ⟨found, r, hrest⟩
  · exact allOfTokens_behind h hleft hrest rfl
  · exact allOfTokens_behind h hleft hrest (complaint?_of_refused rfl _)

/-- A closing tag of another name is refused for its name, whatever
follows. -/
theorem allOfTokens_mismatched {tag found : Name} {outer : List Name}
    (hleft : openAfter [] ps = .ok (tag :: outer)) (hother : found ≠ tag)
    (j k : Bool) (rest : List Token) :
    allOfTokens reader
        (ts ++ .punct '<' j :: .punct '/' k :: found.token :: rest)
      = .error (.mismatched tag found) := by
  obtain ⟨r, hrest⟩ :=
    @Reading.exists_ofTokens_closing reader found j k rest
  exact allOfTokens_behind h hleft hrest
    (complaint?_of_refused (Piece.track_closing_other hother outer) _)

end Views

end Node

-- ========================================================== main result

/-- A view that is put together from well-formed pieces is read exactly
if the stack of open tags can follow all of them and is empty at the end;
otherwise it is refused for what the stack meets first. At a closing tag
nothing behind matters: on the empty stack not even the tag's name, and
on any other only that. Making code fails in the same cases, and for the
view without pieces. -/
theorem nesting_decided_by_open_tags (reader : ExprReader)
    {ps : List Piece} {ts : List Token} (h : PiecesWritten reader ps ts) :
    ((∃ nodes, Node.allOfTokens reader ts = .ok nodes)
        ↔ openAfter [] ps = .ok [])
    ∧ (∀ e, Node.allOfTokens reader ts = .error e ↔ Misnested ps e)
    ∧ (∀ e, Code.ofTokens reader ts = .error e
        ↔ Misnested ps e ∨ ps = [] ∧ e = .noNodes)
    ∧ (∀ j k rest, openAfter [] ps = .ok [] →
        Node.allOfTokens reader
            (ts ++ .punct '<' j :: .punct '/' k :: rest)
          = .error .malformed)
    ∧ (∀ tag outer found j k rest, openAfter [] ps = .ok (tag :: outer) →
        found ≠ tag → Node.allOfTokens reader
            (ts ++ .punct '<' j :: .punct '/' k :: found.token :: rest)
          = .error (.mismatched tag found))
    ∧ ∀ tag found : Name,
        (ViewError.mismatched tag found).message?
            = some ("mismatched closing tag: expected `</" ++ tag.text
              ++ ">`, found `</" ++ found.text ++ ">`")
          ∧ (ViewError.unclosed tag).message?
            = some ("unclosed element: expected `</" ++ tag.text
              ++ ">`") := by
  refine ⟨Node.exists_allOfTokens_iff h,
    fun e => Node.allOfTokens_eq_error_iff h,
    fun e => Node.code_ofTokens_eq_error_iff h, ?_, ?_, ?_⟩
  · exact fun j k rest hleft => Node.allOfTokens_stray h hleft j k rest
  · exact fun tag outer found j k rest hleft hother =>
      Node.allOfTokens_mismatched h hleft hother j k rest
  · exact fun tag found => ⟨rfl, rfl⟩

-- ================================================= a list and its entry

def listTag : Name := ⟨false, "ul", by decide⟩

def entryTag : Name := ⟨false, "li", by decide⟩

def entryPieces : List Piece :=
  [.opening entryTag [], .text "x", .closing entryTag]

/-- An entry in a list, both of them open. -/
def openPieces : List Piece :=
  [.opening listTag [], .opening entryTag [], .text "x"]

theorem written_entryPieces :
    PiecesWritten Expression.take? entryPieces
      (entryPieces.flatMap Piece.tokens) :=
  .printed (fun _ he => absurd he List.not_mem_nil)

theorem written_openPieces :
    PiecesWritten Expression.take? openPieces
      (openPieces.flatMap Piece.tokens) :=
  .printed (fun _ he => absurd he List.not_mem_nil)

/-- An entry is read by itself, and no closing tag may stand behind it.
If it is open in a list, it is the entry that is not closed, and the
closing tag of the list is refused for that of the entry. -/
theorem entry_closed_first :
    (PiecesWritten Expression.take? entryPieces
        (entryPieces.flatMap Piece.tokens)
      ∧ PiecesWritten Expression.take? openPieces
        (openPieces.flatMap Piece.tokens))
    ∧ (∃ nodes, Node.allOfTokens Expression.take?
        (entryPieces.flatMap Piece.tokens) = .ok nodes)
    ∧ Node.allOfTokens Expression.take?
        (entryPieces.flatMap Piece.tokens ++ [mark '<', mark '/'])
      = .error .malformed
    ∧ Code.ofTokens Expression.take? (openPieces.flatMap Piece.tokens)
      = .error (.unclosed entryTag)
    ∧ Node.allOfTokens Expression.take?
        (openPieces.flatMap Piece.tokens
          ++ [mark '<', mark '/', listTag.token, mark '>'])
      = .error (.mismatched entryTag listTag) := by
  obtain ⟨hread, -, -, hstray, -⟩ :=
    nesting_decided_by_open_tags Expression.take? written_entryPieces
  obtain ⟨-, -, hrefused, -, hmismatched, -⟩ :=
    nesting_decided_by_open_tags Expression.take? written_openPieces
  have hleft : openAfter [] openPieces = .ok [entryTag, listTag] := rfl
  have hother : listTag ≠ entryTag := by decide
  exact ⟨⟨written_entryPieces, written_openPieces⟩, hread.2 rfl,
    hstray false false [] rfl, (hrefused _).2 (.inl (.unclosed hleft)),
    hmismatched _ _ _ false false _ hleft hother⟩

end RuledList.View
