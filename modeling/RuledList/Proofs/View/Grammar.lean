/-
The grammar of views, and that reading keeps everything. Nodes are
written down by `Node.tokensAll`, in the one form that a view has up to
the spacing of operators and the spelling of texts. The main statement
(`views_read_as_written`) says for every reader of expressions

- that nodes are read from tokens exactly where these write them
  (`Node.Written`),
- that nodes written down are read back as they were, and
- that what has been read can be written down again to the tokens it
  was read from, in canonical form.

What a view embeds is the reader's affair. The second part asks of it
that it takes every embedded expression for itself, the third that an
expression which it takes whole is what stood between the braces.

# From nodes to pieces

Nodes are written down along their nesting, but read piece by piece. So
the printer is carried over to pieces once (`Node.tokensAll_eq`), and
all else is said of a single piece.
-/
import RuledList.Proofs.View.Nesting
import RuledList.Proofs.View.Spelling

namespace RuledList.View

-- ============================================================== printing

/-- An operator character that stands by itself. -/
def mark (c : Char) : Token := .punct c false

def AttrValue.token : AttrValue → Token
  | .literal l => .literal l.spelling
  | .expr tokens => .group .brace tokens

def Attribute.tokens (a : Attribute) : List Token :=
  [a.name.token, mark '=', a.value.token]

def Piece.tokens : Piece → List Token
  | .opening tag attrs =>
    mark '<' :: tag.token :: (attrs.flatMap Attribute.tokens ++ [mark '>'])
  | .single tag attrs =>
    mark '<' :: tag.token ::
      (attrs.flatMap Attribute.tokens ++ [mark '/', mark '>'])
  | .closing tag => [mark '<', mark '/', tag.token, mark '>']
  | .text value => [textLiteral value]
  | .expr tokens => [.group .brace tokens]

namespace Node

mutual

def tokens : Node → List Token
  | .element tag attrs children =>
    mark '<' :: tag.token :: (attrs.flatMap Attribute.tokens ++
      [mark '>'] ++ tokensAll children ++
      [mark '<', mark '/', tag.token, mark '>'])
  | .single tag attrs =>
    mark '<' :: tag.token ::
      (attrs.flatMap Attribute.tokens ++ [mark '/', mark '>'])
  | .text value => [textLiteral value]
  | .expr tokens => [.group .brace tokens]
termination_by structural n => n

def tokensAll : List Node → List Token
  | [] => []
  | n :: rest => tokens n ++ tokensAll rest
termination_by structural ns => ns

end

mutual

theorem tokens_eq (n : Node) :
    n.tokens = n.pieces.flatMap Piece.tokens := by
  cases n with
  | element tag attrs children =>
      have hchildren := tokensAll_eq children
      simp [tokens, pieces, hchildren, Piece.tokens]
  | single tag attrs => exact (List.append_nil _).symm
  | text value => rfl
  | expr tokens => rfl
termination_by structural n

theorem tokensAll_eq (ns : List Node) :
    tokensAll ns = (piecesAll ns).flatMap Piece.tokens := by
  cases ns with
  | nil => rfl
  | cons n ns =>
      rw [tokensAll, piecesAll, List.flatMap_append, tokens_eq n,
        tokensAll_eq ns]
termination_by structural ns

end

end Node

-- ================================================== embedded expressions

def AttrValue.embedded : AttrValue → List (List Token)
  | .literal _ => []
  | .expr tokens => [tokens]

/-- The expressions in the values of attributes, in their order. -/
def embeddedIn (attrs : List Attribute) : List (List Token) :=
  attrs.flatMap (·.value.embedded)

def Piece.embedded : Piece → List (List Token)
  | .opening _ attrs => embeddedIn attrs
  | .single _ attrs => embeddedIn attrs
  | .closing _ => []
  | .text _ => []
  | .expr tokens => [tokens]

namespace Node

mutual

/-- The expressions that a node embeds, from left to right. -/
def embedded : Node → List (List Token)
  | .element _ attrs children => embeddedIn attrs ++ embeddedAll children
  | .single _ attrs => embeddedIn attrs
  | .text _ => []
  | .expr tokens => [tokens]
termination_by structural n => n

/-- The expressions that several nodes embed, from left to right. -/
def embeddedAll : List Node → List (List Token)
  | [] => []
  | n :: rest => embedded n ++ embeddedAll rest
termination_by structural ns => ns

end

mutual

theorem embedded_eq (n : Node) :
    n.embedded = n.pieces.flatMap Piece.embedded := by
  cases n with
  | element tag attrs children =>
      have hchildren := embeddedAll_eq children
      simp [embedded, pieces, hchildren, Piece.embedded]
  | single tag attrs => exact (List.append_nil _).symm
  | text value => rfl
  | expr tokens => rfl
termination_by structural n

theorem embeddedAll_eq (ns : List Node) :
    embeddedAll ns = (piecesAll ns).flatMap Piece.embedded := by
  cases ns with
  | nil => rfl
  | cons n ns =>
      rw [embeddedAll, piecesAll, List.flatMap_append, embedded_eq n,
        embeddedAll_eq ns]
termination_by structural ns

end

end Node

-- ======================================================== canonical form

namespace Token

mutual

/-- A token with no operator character glued to the next. -/
def unspaced : Token → Token
  | .ident raw name => .ident raw name
  | .punct c _ => .punct c false
  | .literal spelling => .literal spelling
  | .group d content => .group d (unspacedAll content)
termination_by structural t => t

/-- Tokens with no operator character glued to the next. -/
def unspacedAll : List Token → List Token
  | [] => []
  | t :: rest => unspaced t :: unspacedAll rest
termination_by structural ts => ts

end

/-- The tokens of a view up to spacing, and up to the spelling of texts.
The literal after an equals sign is the value of an attribute: it stays
as it is spelled, and so does what stands between braces. -/
def canonical : List Token → List Token
  | .punct '=' _ :: value :: rest =>
    mark '=' :: unspaced value :: canonical rest
  | .literal spelling :: rest =>
    (match textOfLiteral? spelling with
      | some value => textLiteral value
      | none => .literal spelling) :: canonical rest
  | t :: rest => unspaced t :: canonical rest
  | [] => []

theorem canonical_text {spelling value : String}
    (h : textOfLiteral? spelling = some value) (rest : List Token) :
    canonical (.literal spelling :: rest)
      = textLiteral value :: canonical rest := by
  rw [canonical, h]

theorem canonical_group (d : Delimiter) (content rest : List Token) :
    canonical (.group d content :: rest)
      = .group d (unspacedAll content) :: canonical rest := rfl

theorem canonical_attribute (n : Name) (joint : Bool) (value : Token)
    (rest : List Token) :
    canonical (n.token :: .punct '=' joint :: value :: rest)
      = n.token :: mark '=' :: unspaced value :: canonical rest := rfl

end Token

-- ======================================================= written, printed

variable {reader : ExprReader}

/-- A reader that takes each of some expressions for itself. -/
def ExprReader.Takes (reader : ExprReader) (es : List (List Token)) :
    Prop :=
  ∀ e ∈ es, reader e = some (e, true)

theorem AttributesWritten.printed {attrs : List Attribute}
    (h : reader.Takes (embeddedIn attrs)) :
    AttributesWritten reader attrs (attrs.flatMap Attribute.tokens) := by
  induction attrs with
  | nil => exact .nil
  | cons a attrs ih =>
      obtain ⟨hhead, htail⟩ := List.forall_mem_append.1 h
      refine .cons false ?_ (ih htail)
      cases hvalue : a.value with
      | literal l =>
          rw [AttrValue.token, AttrValue.ofToken?,
            TextLiteral.ofSpelling?, dif_pos l.quoted]
          rfl
      | expr tokens =>
          have htakes : reader tokens = some (tokens, true) := by
            apply hhead
            simp [hvalue, AttrValue.embedded]
          rw [AttrValue.token, AttrValue.ofToken?, htakes]
          rfl

/-- What a piece prints writes it. -/
theorem Piece.written_tokens {p : Piece} (h : reader.Takes p.embedded) :
    p.Written reader p.tokens := by
  cases p with
  | opening tag attrs => exact .opening tag false false (.printed h)
  | single tag attrs => exact .single tag false false false (.printed h)
  | closing tag => exact .closing tag false false false
  | text value => exact .text (textOfLiteral?_spelling value)
  | expr tokens => exact .expr (h tokens (List.mem_singleton.2 rfl))

theorem PiecesWritten.printed {ps : List Piece}
    (h : reader.Takes (ps.flatMap Piece.embedded)) :
    PiecesWritten reader ps (ps.flatMap Piece.tokens) := by
  induction ps with
  | nil => exact .nil
  | cons p ps ih =>
      obtain ⟨hhead, htail⟩ := List.forall_mem_append.1 h
      exact .cons (Piece.written_tokens hhead) (ih htail)

-- ==================================================== written, canonical

/-- A reader that, of the braces among some tokens, takes whole only
what it gives back up to spacing. -/
def ExprReader.Keeps (reader : ExprReader) (ts : List Token) : Prop :=
  ∀ content e, Token.group .brace content ∈ ts →
    reader content = some (e, true) →
    Token.unspacedAll content = Token.unspacedAll e

theorem ExprReader.Keeps.mono {ts us : List Token}
    (h : reader.Keeps us) (hsub : ts ⊆ us) : reader.Keeps ts :=
  fun content e hmem => h content e (hsub hmem)

theorem AttrValue.unspaced_ofToken? {value : Token} {v : AttrValue}
    (hkeeps : reader.Keeps [value])
    (h : AttrValue.ofToken? reader value = some (v, true)) :
    value.unspaced = v.token.unspaced := by
  cases value with
  | ident raw word => cases h
  | punct c joint => cases h
  | literal spelling =>
      obtain ⟨l, hl, hv⟩ := Option.map_eq_some_iff.1 h
      cases hv
      rw [TextLiteral.ofSpelling?] at hl
      split at hl
      · cases hl
        rfl
      · cases hl
  | group d content =>
      cases d with
      | paren => cases h
      | bracket => cases h
      | brace =>
          obtain ⟨⟨e, whole⟩, hread, hv⟩ := Option.map_eq_some_iff.1 h
          cases hv
          have hcontent := hkeeps content e (List.mem_singleton.2 rfl)
            hread
          rw [AttrValue.token, Token.unspaced, Token.unspaced, hcontent]

/-- What writes attributes prints the same, whatever follows. -/
theorem AttributesWritten.canonical {attrs : List Attribute}
    {ts : List Token} (h : AttributesWritten reader attrs ts)
    (hkeeps : reader.Keeps ts) {rest rest' : List Token}
    (hrest : Token.canonical rest = Token.canonical rest') :
    Token.canonical (ts ++ rest)
      = Token.canonical (attrs.flatMap Attribute.tokens ++ rest') := by
  induction h with
  | nil => exact hrest
  | @cons a value attrs ts joint hvalue _ ih =>
      have hhead : value.unspaced = a.value.token.unspaced :=
        AttrValue.unspaced_ofToken? (hkeeps.mono (by simp)) hvalue
      have htail := ih (hkeeps.mono (by
        intro t ht
        simp [ht]))
      show Token.canonical (a.name.token :: .punct '=' joint :: value ::
          (ts ++ rest))
        = Token.canonical (a.name.token :: .punct '=' false ::
          a.value.token :: (attrs.flatMap Attribute.tokens ++ rest'))
      rw [Token.canonical_attribute, Token.canonical_attribute, hhead,
        htail]

/-- A tag with its attributes prints the same, if what ends it does. -/
theorem AttributesWritten.canonical_tag {attrs : List Attribute}
    {ts : List Token} (h : AttributesWritten reader attrs ts) (tag : Name)
    (joint : Bool) {ends ends' rest rest' : List Token}
    (hkeeps : reader.Keeps (.punct '<' joint :: tag.token :: (ts ++ ends)))
    (hends : Token.canonical (ends ++ rest)
      = Token.canonical (ends' ++ rest')) :
    Token.canonical (.punct '<' joint :: tag.token :: (ts ++ ends) ++ rest)
      = Token.canonical (mark '<' :: tag.token ::
        (attrs.flatMap Attribute.tokens ++ ends') ++ rest') := by
  have hinner := h.canonical (hkeeps.mono (by
    intro t ht
    simp [ht])) hends
  rw [← List.append_assoc, ← List.append_assoc] at hinner
  exact congrArg (mark '<' :: tag.token :: ·) hinner

/-- What writes a piece prints the same, whatever follows. -/
theorem Piece.Written.canonical {p : Piece} {ts : List Token}
    (h : p.Written reader ts) (hkeeps : reader.Keeps ts)
    {rest rest' : List Token}
    (hrest : Token.canonical rest = Token.canonical rest') :
    Token.canonical (ts ++ rest) = Token.canonical (p.tokens ++ rest') := by
  cases h with
  | opening tag j k hattrs =>
      exact hattrs.canonical_tag tag j hkeeps
        (congrArg (mark '>' :: ·) hrest)
  | single tag j k l hattrs =>
      exact hattrs.canonical_tag tag j hkeeps
        (congrArg (mark '/' :: mark '>' :: ·) hrest)
  | closing tag j k l =>
      exact congrArg (mark '<' :: mark '/' :: tag.token :: mark '>' :: ·)
        hrest
  | @text spelling value hvalue =>
      show Token.canonical (.literal spelling :: rest)
        = Token.canonical (.literal _ :: rest')
      rw [Token.canonical_text hvalue,
        Token.canonical_text (textOfLiteral?_spelling value), hrest]
  | @expr content tokens hread =>
      have hcontent := hkeeps content tokens (List.mem_singleton.2 rfl)
        hread
      show Token.canonical (.group .brace content :: rest)
        = Token.canonical (.group .brace tokens :: rest')
      rw [Token.canonical_group, Token.canonical_group, hcontent, hrest]

theorem PiecesWritten.canonical {ps : List Piece} {ts : List Token}
    (h : PiecesWritten reader ps ts) (hkeeps : reader.Keeps ts) :
    Token.canonical ts
      = Token.canonical (ps.flatMap Piece.tokens) := by
  induction h with
  | nil => rfl
  | cons hpiece _ ih =>
      have htail := ih (hkeeps.mono (List.subset_append_right _ _))
      exact hpiece.canonical (hkeeps.mono (List.subset_append_left _ _))
        htail

-- ================================================================ views

/-- Tokens that write nodes: those of their pieces, one after the
other. -/
def Node.Written (reader : ExprReader) (nodes : List Node)
    (ts : List Token) : Prop :=
  PiecesWritten reader (Node.piecesAll nodes) ts

theorem Node.allOfTokens_eq_ok_iff {ts : List Token}
    {nodes : List Node} :
    Node.allOfTokens reader ts = .ok nodes
      ↔ Node.Written reader nodes ts := by
  rw [Node.allOfTokens, Node.ofReading_eq_ok_iff,
    Reading.ofTokens_eq_iff, Node.Written]

/-- Printed nodes are read back. -/
theorem Node.allOfTokens_tokensAll {nodes : List Node}
    (h : reader.Takes (Node.embeddedAll nodes)) :
    Node.allOfTokens reader (Node.tokensAll nodes) = .ok nodes := by
  rw [Node.embeddedAll_eq] at h
  rw [Node.allOfTokens_eq_ok_iff, Node.Written, Node.tokensAll_eq]
  exact .printed h

/-- A view is read exactly as it is written: nodes come from the tokens
that write them and no others, printed nodes are read back, and tokens
that were read are printed again up to spacing and the spelling of
texts. -/
theorem views_read_as_written (reader : ExprReader)
    (nodes : List Node) (ts : List Token) :
    (Node.allOfTokens reader ts = .ok nodes
        ↔ Node.Written reader nodes ts)
      ∧ (reader.Takes (Node.embeddedAll nodes) →
        Node.allOfTokens reader (Node.tokensAll nodes) = .ok nodes)
      ∧ (reader.Keeps ts → Node.allOfTokens reader ts = .ok nodes →
        Token.canonical ts = Token.canonical (Node.tokensAll nodes)) := by
  refine ⟨Node.allOfTokens_eq_ok_iff, Node.allOfTokens_tokensAll, ?_⟩
  intro hkeeps hread
  have hwritten := Node.allOfTokens_eq_ok_iff.1 hread
  rw [Node.tokensAll_eq]
  exact PiecesWritten.canonical hwritten hkeeps

-- ======================================================== a card as typed

open Token in
/-- A card: an element with a literal and an expression for attributes,
a text and a self-closing element inside, and an expression after it. -/
def card : List Node :=
  [.element ⟨false, "p", by decide⟩
      [⟨⟨false, "class", by decide⟩, .literal ⟨"r\"a\"", by cbv⟩⟩,
        ⟨⟨false, "hidden", by decide⟩,
          .expr [word "x", .punct '&' true, mark '&', mark '!',
            word "y"]⟩]
      [.text "hi", .single ⟨false, "br", by decide⟩ []],
    .expr [word "z"]]

open Token in
/-- The card as it may be typed, with operators glued together and a raw
string for its text. -/
def cardTyped : List Token :=
  [mark '<', word "p", word "class", .punct '=' true,
    .literal "r\"a\"", word "hidden", mark '=',
    .group .brace [word "x", .punct '&' true, .punct '&' true, mark '!',
      word "y"],
    mark '>', .literal "r#\"hi\"#", mark '<', word "br",
    .punct '/' true, .punct '>' true, .punct '<' true, mark '/',
    word "p", mark '>', .group .brace [word "z"]]

theorem card_taken :
    ExprReader.Takes Expression.take? (Node.embeddedAll card) := by
  intro e he
  have hcases : e = [.word "x", .punct '&' true, mark '&', mark '!',
      .word "y"] ∨ e = [.word "z"] := by
    simpa [card, Node.embeddedAll, Node.embedded, embeddedIn,
      AttrValue.embedded] using he
  rcases hcases with rfl | rfl <;> rfl

theorem cardTyped_kept :
    ExprReader.Keeps Expression.take? cardTyped := by
  intro content e hmem hread
  have hcases : content = [.word "x", .punct '&' true, .punct '&' true,
      mark '!', .word "y"] ∨ content = [.word "z"] := by
    simpa [cardTyped, mark, Token.word] using hmem
  rcases hcases with rfl | rfl
  · have htaken : Expression.take? [.word "x", .punct '&' true,
        .punct '&' true, mark '!', .word "y"]
        = some ([.word "x", .punct '&' true, mark '&', mark '!',
            .word "y"], true) := rfl
    cases htaken.symm.trans hread
    rfl
  · have htaken : Expression.take? [.word "z"]
        = some ([.word "z"], true) := rfl
    cases htaken.symm.trans hread
    rfl

/-- The card is read from what was typed and from what it prints, and
prints what was typed but for the spacing and the spelling of its
text. -/
theorem card_read_as_written :
    (ExprReader.Takes Expression.take? (Node.embeddedAll card)
        ∧ ExprReader.Keeps Expression.take? cardTyped)
      ∧ Node.allOfTokens Expression.take? cardTyped = .ok card
      ∧ Node.Written Expression.take? card cardTyped
      ∧ Node.allOfTokens Expression.take? (Node.tokensAll card)
        = .ok card
      ∧ Token.canonical cardTyped
        = Token.canonical (Node.tokensAll card) := by
  have hread : Node.allOfTokens Expression.take? cardTyped = .ok card :=
    Node.ofReading_eq_ok_iff.2 rfl
  obtain ⟨hwritten, hprinted, hcanonical⟩ :=
    views_read_as_written Expression.take? card cardTyped
  exact ⟨⟨card_taken, cardTyped_kept⟩, hread, hwritten.1 hread,
    hprinted card_taken, hcanonical cardTyped_kept hread⟩

end RuledList.View
