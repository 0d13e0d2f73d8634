/-
Cutting a view into pieces is exact. `Written` says which tokens write
which pieces: an opening tag is its name and its attributes between
angle brackets, and so on, with any spacing of the brackets, any
spelling of a text, and for an embedded expression any tokens in braces
that the reader takes for it and takes whole. Reading gives pieces
without a fault exactly if the tokens write those pieces
(`Reading.ofTokens_eq_iff`).

# The induction

Reading keeps the head of an unfinished tag beside the tokens that are
left, so the induction on the reader's own recursion has to say what
those are worth: `Begun` relates them to the tokens that have been
consumed for them. Soundness then says of consumed and remaining tokens
together that they write the pieces.
-/
import RuledList.View.Piece

namespace RuledList.View

-- ================================================================ tokens

/-- A name as a token. -/
def Name.token (n : Name) : Token := .ident n.raw n.word

theorem Name.ofIdent?_eq_some {raw : Bool} {word : String} {n : Name} :
    Name.ofIdent? raw word = some n ↔ n.token = .ident raw word := by
  unfold Name.ofIdent? Name.token
  constructor
  · intro h
    split at h
    · injection h with h
      rw [← h]
    · cases h
  · intro h
    obtain ⟨raw', word', legal⟩ := n
    injection h with hraw hword
    subst hraw hword
    rw [dif_pos legal]

variable (reader : ExprReader)

/-- Tokens that write attributes: a name, an equals sign and a value for
each. -/
inductive AttributesWritten : List Attribute → List Token → Prop
  | nil : AttributesWritten [] []
  | cons {a : Attribute} {value : Token} {attrs : List Attribute}
      {ts : List Token} (joint : Bool)
      (hvalue : AttrValue.ofToken? reader value = some (a.value, true))
      (hrest : AttributesWritten attrs ts) :
    AttributesWritten (a :: attrs)
      (a.name.token :: .punct '=' joint :: value :: ts)

/-- Tokens that write a piece. -/
inductive Piece.Written : Piece → List Token → Prop
  | opening (tag : Name) {attrs : List Attribute} {ts : List Token}
      (j k : Bool) (hattrs : AttributesWritten reader attrs ts) :
    Written (.opening tag attrs)
      (.punct '<' j :: tag.token :: (ts ++ [.punct '>' k]))
  | single (tag : Name) {attrs : List Attribute} {ts : List Token}
      (j k l : Bool) (hattrs : AttributesWritten reader attrs ts) :
    Written (.single tag attrs)
      (.punct '<' j :: tag.token ::
        (ts ++ [.punct '/' k, .punct '>' l]))
  | closing (tag : Name) (j k l : Bool) :
    Written (.closing tag)
      [.punct '<' j, .punct '/' k, tag.token, .punct '>' l]
  | text {spelling value : String}
      (hvalue : textOfLiteral? spelling = some value) :
    Written (.text value) [.literal spelling]
  | expr {content tokens : List Token}
      (hread : reader content = some (tokens, true)) :
    Written (.expr tokens) [.group .brace content]

/-- Tokens that write several pieces, one after the other. -/
inductive PiecesWritten : List Piece → List Token → Prop
  | nil : PiecesWritten [] []
  | cons {p : Piece} {ps : List Piece} {ts us : List Token}
      (hpiece : p.Written reader ts) (hrest : PiecesWritten ps us) :
    PiecesWritten (p :: ps) (ts ++ us)

variable {reader}

theorem AttributesWritten.snoc {attrs : List Attribute} {ts : List Token}
    (h : AttributesWritten reader attrs ts) {a : Attribute}
    {value : Token} (joint : Bool)
    (hvalue : AttrValue.ofToken? reader value = some (a.value, true)) :
    AttributesWritten reader (attrs ++ [a])
      (ts ++ [a.name.token, .punct '=' joint, value]) := by
  induction h with
  | nil => exact .cons joint hvalue .nil
  | cons j hv _ ih => exact .cons j hv ih

namespace Reading

/-- A reading of pieces in which nothing is wrong. -/
def faultless (ps : List Piece) : Reading := ⟨ps, none, true⟩

theorem add_faultless (p : Piece) (ps : List Piece) :
    (faultless ps).add p = faultless (p :: ps) := rfl

theorem of_add {p : Piece} {r : Reading} {ps : List Piece}
    (h : r.add p = faultless ps) :
    ∃ qs, ps = p :: qs ∧ r = faultless qs := by
  obtain ⟨qs, fault?, whole⟩ := r
  cases h
  exact ⟨qs, rfl, rfl⟩

theorem of_mark {whole : Bool} {r : Reading} {ps : List Piece}
    (h : r.mark whole = faultless ps) :
    whole = true ∧ r = faultless ps := by
  obtain ⟨qs, fault?, whole'⟩ := r
  injection h with hps hfault hwhole
  obtain ⟨hw, hw'⟩ := Bool.and_eq_true_iff.1 hwhole
  subst hps hfault hw hw'
  exact ⟨rfl, rfl⟩

theorem fail_ne (e : ViewError) (ps : List Piece) :
    fail e ≠ faultless ps := nofun

-- ============================================================ soundness

/-- Tokens consumed for the unfinished tag that a reading remembers. -/
def Begun (reader : ExprReader) :
    Option (Name × List Attribute) → List Token → Prop
  | none, ts => ts = []
  | some (tag, attrs), ts => ∃ j as,
    AttributesWritten reader attrs as
      ∧ ts = .punct '<' j :: tag.token :: as

/-- What is read without a fault is written there: by the tokens
consumed for an unfinished tag, and the tokens that are left. -/
theorem written_of_ofTokens {reader : ExprReader}
    {tag? : Option (Name × List Attribute)} {ts : List Token} :
    ∀ {ps : List Piece} {before : List Token}, Begun reader tag? before →
      ofTokens reader tag? ts = faultless ps →
      PiecesWritten reader ps (before ++ ts) := by
  fun_induction ofTokens reader tag? ts with
  | case1 =>
      rintro ps before rfl h
      cases h
      exact .nil
  | case2 spelling rest value hvalue ih =>
      rintro ps before rfl h
      obtain ⟨qs, rfl, hrest⟩ := of_add h
      have hwritten := PiecesWritten.cons (.text hvalue) (ih rfl hrest)
      exact hwritten
  | case4 content rest tokens whole hread ih =>
      rintro ps before rfl h
      obtain ⟨rfl, h⟩ := of_mark h
      obtain ⟨qs, rfl, hrest⟩ := of_add h
      have hwritten := PiecesWritten.cons (.expr hread) (ih rfl hrest)
      exact hwritten
  | case6 j k raw word l rest tag htag ih =>
      rintro ps before rfl h
      obtain ⟨qs, rfl, hrest⟩ := of_add h
      rw [← Name.ofIdent?_eq_some.1 htag]
      have hwritten := PiecesWritten.cons (.closing tag j k l)
        (ih rfl hrest)
      exact hwritten
  | case10 j raw word rest tag htag ih =>
      rintro ps before rfl h
      rw [← Name.ofIdent?_eq_some.1 htag]
      exact ih ⟨j, [], .nil, rfl⟩ h
  | case14 tag attrs k l rest ih =>
      rintro ps before ⟨j, as, hattrs, rfl⟩ h
      obtain ⟨qs, rfl, hrest⟩ := of_add h
      have hwritten := PiecesWritten.cons (.single tag j k l hattrs)
        (ih rfl hrest)
      simpa using hwritten
  | case15 tag attrs k rest ih =>
      rintro ps before ⟨j, as, hattrs, rfl⟩ h
      obtain ⟨qs, rfl, hrest⟩ := of_add h
      have hwritten := PiecesWritten.cons (.opening tag j k hattrs)
        (ih rfl hrest)
      simpa using hwritten
  | case16 tag attrs raw word k value rest name v whole hvalue hname ih =>
      rintro ps before ⟨j, as, hattrs, rfl⟩ h
      obtain ⟨rfl, h⟩ := of_mark h
      have hwritten := ih ⟨j, _, hattrs.snoc (a := ⟨name, v⟩) k hvalue,
        rfl⟩ h
      rw [Name.ofIdent?_eq_some.1 hname] at hwritten
      simpa using hwritten
  | case8 =>
      -- the closing tag has no bracket at its end
      rintro ps before - h
      obtain ⟨qs, -, hrest⟩ := of_add h
      exact absurd hrest (fail_ne _ _)
  | _ =>
      rintro ps before - h
      exact absurd h (fail_ne _ _)

-- ========================================================= completeness

variable {reader : ExprReader}

/-- Written attributes join those of the tag that is being read. -/
theorem ofTokens_attributes {attrs : List Attribute} {ts : List Token}
    (h : AttributesWritten reader attrs ts) (tag : Name) :
    ∀ (before : List Attribute) (rest : List Token),
      ofTokens reader (some (tag, before)) (ts ++ rest)
        = ofTokens reader (some (tag, before ++ attrs)) rest := by
  induction h with
  | nil =>
      intro before rest
      rw [List.append_nil]
      rfl
  | @cons a value attrs ts joint hvalue _ ih =>
      intro before rest
      have hname : Name.ofIdent? a.name.raw a.name.word = some a.name :=
        Name.ofIdent?_eq_some.2 rfl
      have hstep : ofTokens reader (some (tag, before))
          (a.name.token :: .punct '=' joint :: value :: (ts ++ rest))
          = ofTokens reader (some (tag, before ++ [a])) (ts ++ rest) := by
        rw [Name.token, ofTokens, hname, hvalue]
        rfl
      rw [List.append_cons]
      exact hstep.trans (ih _ rest)

/-- A tag is open once its attributes are read. -/
theorem ofTokens_tag {attrs : List Attribute} {ts : List Token}
    (h : AttributesWritten reader attrs ts) (tag : Name) (joint : Bool)
    (rest : List Token) :
    ofTokens reader none (.punct '<' joint :: tag.token :: (ts ++ rest))
      = ofTokens reader (some (tag, attrs)) rest := by
  have htag : Name.ofIdent? tag.raw tag.word = some tag :=
    Name.ofIdent?_eq_some.2 rfl
  rw [Name.token, ofTokens, htag]
  exact ofTokens_attributes h tag [] rest

/-- A written piece is read first. -/
theorem ofTokens_piece {p : Piece} {ts : List Token}
    (h : p.Written reader ts) (rest : List Token) :
    ofTokens reader none (ts ++ rest)
      = (ofTokens reader none rest).add p := by
  cases h with
  | @text spelling value hvalue =>
      show ofTokens reader none (.literal spelling :: rest) = _
      rw [ofTokens, hvalue]
  | @expr content tokens hread =>
      show ofTokens reader none (.group .brace content :: rest) = _
      rw [ofTokens, hread]
      rfl
  | closing tag j k l =>
      have htag : Name.ofIdent? tag.raw tag.word = some tag :=
        Name.ofIdent?_eq_some.2 rfl
      show ofTokens reader none (.punct '<' j :: .punct '/' k ::
        .ident tag.raw tag.word :: .punct '>' l :: rest) = _
      rw [ofTokens, htag]
  | opening tag j k hattrs =>
      have hopen := ofTokens_tag hattrs tag j (.punct '>' k :: rest)
      rw [List.cons_append, List.cons_append, List.append_assoc]
      exact hopen
  | single tag j k l hattrs =>
      have hopen := ofTokens_tag hattrs tag j
        (.punct '/' k :: .punct '>' l :: rest)
      rw [List.cons_append, List.cons_append, List.append_assoc]
      exact hopen

/-- Pieces are read without a fault exactly where they are written. -/
theorem ofTokens_eq_iff {ts : List Token} {ps : List Piece} :
    ofTokens reader none ts = faultless ps
      ↔ PiecesWritten reader ps ts := by
  constructor
  · have hbegun : Begun reader none [] := rfl
    exact written_of_ofTokens hbegun
  · intro h
    induction h with
    | nil => rfl
    | cons hpiece _ ih => rw [ofTokens_piece hpiece, ih, add_faultless]

end Reading

end RuledList.View
