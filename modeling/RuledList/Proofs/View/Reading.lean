/-
Generated code is read back from its tokens. `Code.Readable` says which
code that is: every path has a name in it, expressions are what
conversions are given and stand nowhere else, and a comma after the last
argument has an argument before it. The code of a view is such code
(`Code.readable_ofView`) if its expressions can be arguments.

# Expressions as arguments

Where an expression that is an argument ends is decided by its commas
(`ExprReader.Passes`): no comma of its own may stand behind a whole
expression. Rust's expressions are all like this, since what goes on
after a comma, as the parameters of a closure do, has not ended before
it.

# One after the other

Reading a form leaves what follows it as it is, so each form is read
back with whatever comes next (`Code.ReadsBack`). What is between
commas, or between semicolons, is then an induction on lists.
-/
import Mathlib.Data.List.Basic
import RuledList.Proofs.View.Grammar
import RuledList.View.Code.Reading
import RuledList.View.Code.View

namespace RuledList.View

variable {reader : ExprReader}

-- ========================================================= expressions

/-- An expression that is an argument as it stands: it is taken for
itself, and no comma in it stands behind a whole expression. -/
structure ExprReader.Passes (reader : ExprReader) (e : List Token) :
    Prop where
  taken : reader e = some (e, true)
  nonempty : e ≠ []
  undivided : ∀ before joint after,
    e = before ++ .punct ',' joint :: after →
      Code.expression? reader before = none

/-- An expression without commas can be an argument. -/
theorem ExprReader.passes_of_no_comma {e : List Token}
    (htaken : reader e = some (e, true)) (hnonempty : e ≠ [])
    (hcomma : ∀ joint, Token.punct ',' joint ∉ e) : reader.Passes e where
  taken := htaken
  nonempty := hnonempty
  undivided before joint after h := by
    refine absurd ?_ (hcomma joint)
    rw [h]
    exact List.mem_append_right before List.mem_cons_self

/-- An expression with one comma can be an argument if what stands
before the comma cannot. -/
theorem ExprReader.passes_of_comma {before after : List Token}
    {joint : Bool}
    (htaken : reader (before ++ .punct ',' joint :: after)
      = some (before ++ .punct ',' joint :: after, true))
    (hbefore : ∀ joint, Token.punct ',' joint ∉ before)
    (hafter : ∀ joint, Token.punct ',' joint ∉ after)
    (hpart : Code.expression? reader before = none) :
    reader.Passes (before ++ .punct ',' joint :: after) where
  taken := htaken
  nonempty := by simp
  undivided before' joint' after' h := by
    have hsame := (List.append_cons_inj_of_notMem (hbefore joint')
      (hafter joint')).1 h
    exact hsame.1 ▸ hpart

namespace Code

@[simp] theorem tokens_ofExpression (e : List Token) :
    (ofExpression e).tokens = e := by
  unfold ofExpression
  split
  · split <;> rfl
  · rfl

/-- An expression that can be an argument is one. -/
theorem expression?_of_passes {e : List Token} (h : reader.Passes e) :
    expression? reader e = some (ofExpression e) := by
  rw [expression?, h.taken, ite_self]

/-- Reading on behind a comma that ends no expression. -/
theorem expressions?_comma {seen : List Token}
    (h : expression? reader seen = none) (joint : Bool)
    (rest : List Token) :
    expressions? reader seen (.punct ',' joint :: rest)
      = expressions? reader (seen ++ [.punct ',' joint]) rest := by
  rw [expressions?, h]

/-- Reading on behind a token that is no comma. -/
theorem expressions?_other {t : Token}
    (h : ∀ joint, t ≠ .punct ',' joint) (seen rest : List Token) :
    expressions? reader seen (t :: rest)
      = expressions? reader (seen ++ [t]) rest := by
  rw [expressions?]
  rintro joint rfl
  exact h joint rfl

/-- A string literal is the only argument where it stands alone. -/
theorem expressions?_literal (l : TextLiteral) :
    expressions? reader [] [.literal l.spelling]
      = some ([.literal l.spelling], false) := by
  have hliteral : expression? reader [.literal l.spelling]
      = some (.literal l.spelling) := by
    rw [expression?, if_pos (by exact l.quoted)]
    exact congrArg some (if_pos l.quoted)
  have hother : ∀ joint, Token.literal l.spelling ≠ .punct ',' joint :=
    fun joint => nofun
  rw [expressions?_other hother, List.nil_append, expressions?, hliteral,
    Option.map_some]
  exact List.cons_ne_nil _ _

/-- An expression that can be an argument is the only one that is read
where it stands alone. -/
theorem expressions?_of_passes {e : List Token} (h : reader.Passes e) :
    expressions? reader [] e = some ([ofExpression e], false) := by
  suffices hseen : ∀ rest seen, e = seen ++ rest →
      expressions? reader seen rest = some ([ofExpression e], false) from
    hseen e [] rfl
  intro rest
  induction rest with
  | nil =>
      intro seen hseen
      rw [List.append_nil] at hseen
      subst hseen
      rw [expressions?, expression?_of_passes h, Option.map_some]
      exact fun hnil => h.nonempty hnil
  | cons t rest ih =>
      intro seen hseen
      have hnext : e = (seen ++ [t]) ++ rest := by
        rw [hseen, List.append_assoc, List.singleton_append]
      by_cases hcomma : ∃ joint, t = .punct ',' joint
      · obtain ⟨joint, rfl⟩ := hcomma
        rw [expressions?_comma (h.undivided seen joint rest hseen),
          ih _ hnext]
      · rw [expressions?_other (fun joint heq => hcomma ⟨joint, heq⟩),
          ih _ hnext]

/-- Names with a comma between are two arguments, even to a reader that
takes anything for an expression. -/
example :
    expressions? (fun ts => some (ts, true)) []
        [.word "a", .punct ',' false, .word "b"]
      = some ([.embedded [.word "a"], .embedded [.word "b"]], false) :=
  rfl

end Code

-- ================================================================ types

namespace CodeType

/-- Types all of whose paths have a name in them. -/
def Readable : CodeType → Prop
  | .named path => path ≠ []
  | .applied path argument => path ≠ [] ∧ argument.Readable

theorem read?_pathTokens (parts path : List String)
    (rest : List Token) :
    read? path (pathTokens parts ++ rest) = read? (path ++ parts) rest := by
  induction parts generalizing path with
  | nil => rw [List.append_nil]; rfl
  | cons part parts ih =>
      have hstep : read? path (pathTokens (part :: parts) ++ rest)
          = read? (path ++ [part]) (pathTokens parts ++ rest) := by
        show read? path (.punct ':' true :: .punct ':' false ::
          .ident false part :: (pathTokens parts ++ rest)) = _
        rw [read?]
      rw [hstep, ih, List.append_assoc, List.singleton_append]

/-- A type is read back before its end and before the end of another
one's argument. -/
theorem read?_tokens {type : CodeType} (h : type.Readable)
    {rest : List Token}
    (hrest : rest = [] ∨ ∃ more, rest = .punct '>' false :: more) :
    read? [] (type.tokens ++ rest) = some (type, rest) := by
  induction type generalizing rest with
  | named path =>
      rw [tokens, read?_pathTokens, List.nil_append]
      obtain ⟨first, more, rfl⟩ := List.exists_cons_of_ne_nil h
      obtain rfl | ⟨after, rfl⟩ := hrest <;> rfl
  | applied path argument ih =>
      obtain ⟨first, more, rfl⟩ := List.exists_cons_of_ne_nil h.1
      have hargument := ih h.2 (.inr ⟨rest, rfl⟩)
      rw [tokens, List.append_assoc, List.append_assoc, List.append_assoc,
        read?_pathTokens, List.nil_append]
      show read? (first :: more) (.punct '<' false ::
        (argument.tokens ++ .punct '>' false :: rest)) = _
      rw [read?, hargument]
      rfl

/-- A type has no equals sign in it. -/
theorem equals_not_mem_tokens (type : CodeType) (joint : Bool) :
    Token.punct '=' joint ∉ type.tokens := by
  induction type with
  | named path => simp [tokens, pathTokens, Token.operator, Token.word]
  | applied path argument ih =>
      simp [tokens, pathTokens, Token.operator, Token.word, ih]

end CodeType

namespace Code

-- ======================================================= readable code

/-- Code that can be read off its tokens. -/
inductive Readable (reader : ExprReader) : Code → Prop
  | literal (spelling : String) : Readable reader (.literal spelling)
  | named (name : String) : Readable reader (.variable name)
  | conversion {path : List String} {e : List Token}
      (hpath : isConversion path = true) (hpasses : reader.Passes e) :
    Readable reader (.call path false [ofExpression e])
  | quotation {path : List String} (hpath : isConversion path = true)
      (l : TextLiteral) :
    Readable reader (.call path false [.literal l.spelling])
  | call {path : List String} {long : Bool} {arguments : List Code}
      (hpath : path ≠ []) (hplain : isConversion path = false)
      (hlong : long = true → arguments ≠ [])
      (harguments : ∀ c ∈ arguments, Readable reader c) :
    Readable reader (.call path long arguments)
  | method (receiver name : String) {arguments : List Code}
      (hsome : arguments ≠ [])
      (harguments : ∀ c ∈ arguments, Readable reader c) :
    Readable reader (.method receiver name arguments)
  | list {elements : List Code}
      (helements : ∀ c ∈ elements, Readable reader c) :
    Readable reader (.list elements)
  | building (name : String) {start : Code} {steps : List Code}
      {result : Code} (hstart : Readable reader start)
      (hsteps : ∀ c ∈ steps, Readable reader c)
      (hresult : Readable reader result) :
    Readable reader (.building name start steps result)
  | naming (name : String) {type : CodeType} {value result : Code}
      (htype : type.Readable) (hvalue : Readable reader value)
      (hresult : Readable reader result) :
    Readable reader (.naming name type value result)

-- ================================================ one after the other

/-- What stands behind code between separators. -/
def Follows (sep : Char) (rest : List Token) : Prop :=
  rest = [] ∨ ∃ joint more, rest = .punct sep joint :: more

/-- Code that is read off the head of tokens, whatever comes next. -/
def ReadsBack (reader : ExprReader) (c : Code) : Prop :=
  c.tokens ≠ [] ∧ ∀ sep rest, sep ≠ '.' → Follows sep rest →
    codes? reader sep [] (c.tokens ++ rest) = codesAfter? reader sep c rest

/-- Going on behind a separator. -/
theorem codesAfter?_sep {sep : Char} (c : Code) {rest : List Token}
    (hrest : rest ≠ []) :
    codesAfter? reader sep c (.punct sep false :: rest)
      = (codes? reader sep [] rest).map fun (more, long) =>
          (c :: more, long) := by
  rw [codesAfter?, if_pos rfl, if_neg (by simpa using hrest)]

/-- What may stand behind the last argument. -/
def lastComma (long : Bool) : List Token :=
  if long then [.punct ',' false] else []

theorem follows_moreItems (cs : List Code) (long : Bool) :
    Follows ',' (moreItems cs ++ lastComma long) := by
  cases cs with
  | nil =>
      cases long with
      | false => exact .inl rfl
      | true => exact .inr ⟨false, [], rfl⟩
  | cons c cs => exact .inr ⟨false, _, rfl⟩

theorem codesAfter?_moreItems {cs : List Code}
    (h : ∀ c ∈ cs, ReadsBack reader c) (first : Code) (long : Bool) :
    codesAfter? reader ',' first (moreItems cs ++ lastComma long)
      = some (first :: cs, long) := by
  induction cs generalizing first with
  | nil => cases long <;> rfl
  | cons c cs ih =>
      obtain ⟨⟨hsome, hc⟩, hcs⟩ := List.forall_mem_cons.1 h
      have hshape : moreItems (c :: cs) ++ lastComma long
          = .punct ',' false ::
            (c.tokens ++ (moreItems cs ++ lastComma long)) := by
        rw [moreItems, List.append_assoc, List.append_assoc]
        rfl
      rw [hshape, codesAfter?_sep first (by simp [hsome]),
        hc ',' _ (by decide) (follows_moreItems cs long), ih hcs c]
      rfl

/-- Items and arguments are read back, with the comma behind them. -/
theorem codes?_items {cs : List Code}
    (h : ∀ c ∈ cs, ReadsBack reader c) (long : Bool)
    (hlong : long = true → cs ≠ []) :
    codes? reader ',' [] (items cs ++ lastComma long)
      = some (cs, long) := by
  cases cs with
  | nil =>
      cases long with
      | false => rfl
      | true => exact absurd rfl (hlong rfl)
  | cons c cs =>
      obtain ⟨⟨-, hc⟩, hcs⟩ := List.forall_mem_cons.1 h
      rw [items, List.append_assoc,
        hc ',' _ (by decide) (follows_moreItems cs long),
        codesAfter?_moreItems hcs c long]

/-- The steps of a block and its result are read back. -/
theorem codes?_statements {cs : List Code}
    (h : ∀ c ∈ cs, ReadsBack reader c) {result : Code}
    (hresult : ReadsBack reader result) :
    codes? reader ';' [] (statements cs ++ result.tokens)
      = some (cs ++ [result], false) := by
  induction cs with
  | nil =>
      have hlast := hresult.2 ';' [] (by decide) (.inl rfl)
      rw [List.append_nil] at hlast
      exact hlast
  | cons c cs ih =>
      obtain ⟨⟨-, hc⟩, hcs⟩ := List.forall_mem_cons.1 h
      have hshape : statements (c :: cs) ++ result.tokens
          = c.tokens ++ (.punct ';' false ::
            (statements cs ++ result.tokens)) := by
        rw [statements, List.append_assoc, List.append_assoc]
        rfl
      rw [hshape, hc ';' _ (by decide) (.inr ⟨false, _, rfl⟩),
        codesAfter?_sep c (by simp [hresult.1]), ih hcs]
      rfl

-- ================================================================ forms

theorem codes?_pathTokens (sep : Char) (parts path : List String)
    (rest : List Token) :
    codes? reader sep path (pathTokens parts ++ rest)
      = codes? reader sep (path ++ parts) rest := by
  induction parts generalizing path with
  | nil => rw [List.append_nil]; rfl
  | cons part parts ih =>
      have hstep : codes? reader sep path
            (pathTokens (part :: parts) ++ rest)
          = codes? reader sep (path ++ [part])
            (pathTokens parts ++ rest) := by
        show codes? reader sep path (.punct ':' true ::
          .punct ':' false :: .ident false part ::
          (pathTokens parts ++ rest)) = _
        rw [codes?]
      rw [hstep, ih, List.append_assoc, List.singleton_append]

/-- A type is passed over up to the equals sign behind it. -/
theorem declared?_type (reader : ExprReader) (name : String)
    {ts : List Token} (h : ∀ joint, Token.punct '=' joint ∉ ts)
    (seen rest : List Token) :
    declared? reader name seen (ts ++ .punct '=' false :: rest)
      = (codes? reader ';' [] rest).bind (naming? name (seen ++ ts)) := by
  induction ts generalizing seen with
  | nil => rw [List.append_nil, List.nil_append, declared?]
  | cons t ts ih =>
      have hts : ∀ joint, Token.punct '=' joint ∉ ts := fun joint hmem =>
        h joint (List.mem_cons_of_mem t hmem)
      have hstep : declared? reader name seen
            (t :: (ts ++ .punct '=' false :: rest))
          = declared? reader name (seen ++ [t])
            (ts ++ .punct '=' false :: rest) := by
        rw [declared?]
        rintro joint rfl
        exact h joint List.mem_cons_self
      rw [List.cons_append, hstep, ih hts, List.append_assoc,
        List.singleton_append]

/-- A call is read up to its arguments. -/
theorem codes?_callTokens (sep : Char) (path : List String) (long : Bool)
    (arguments : List Code) (rest : List Token) :
    codes? reader sep [] ((Code.call path long arguments).tokens ++ rest)
      = codes? reader sep path
          (.group .paren (items arguments ++ lastComma long) :: rest) := by
  rw [tokens, List.append_assoc, codes?_pathTokens, List.nil_append]
  rfl

/-- A call is read back if its arguments are. -/
theorem readsBack_call {path : List String} {long : Bool}
    {arguments : List Code} (hpath : path ≠ [])
    (hplain : isConversion path = false)
    (h : codes? reader ',' [] (items arguments ++ lastComma long)
      = some (arguments, long)) :
    ReadsBack reader (.call path long arguments) := by
  obtain ⟨first, more, rfl⟩ := List.exists_cons_of_ne_nil hpath
  refine ⟨by simp [tokens], fun sep rest _ _ => ?_⟩
  rw [codes?_callTokens, codes?, if_neg (by simp [hplain]), within?, h]
  rfl

/-- A conversion is read back if its argument is. -/
theorem readsBack_conversion {path : List String} {argument : Code}
    (hpath : isConversion path = true)
    (h : expressions? reader [] argument.tokens
      = some ([argument], false)) :
    ReadsBack reader (.call path false [argument]) := by
  have hsome : path ≠ [] := by
    rintro rfl
    cases hpath
  obtain ⟨first, more, rfl⟩ := List.exists_cons_of_ne_nil hsome
  have hitems : items [argument] ++ lastComma false = argument.tokens := by
    simp [items, moreItems, lastComma]
  refine ⟨by simp [tokens], fun sep rest _ _ => ?_⟩
  rw [codes?_callTokens, codes?, if_pos hpath, hitems, h]
  rfl

/-- A block is read back if its content is. -/
theorem readsBack_block {c : Code} {content : List Token}
    (htokens : c.tokens = [.group .brace content])
    (h : block? reader (.group .brace content) = some c) :
    ReadsBack reader c := by
  refine ⟨by simp [htokens], fun sep rest _ _ => ?_⟩
  rw [htokens, List.singleton_append, codes?, h]
  rfl

theorem block?_building (name : String) {start : Code}
    {steps : List Code} {result : Code} (hstart : ReadsBack reader start)
    (hsteps : ∀ c ∈ steps, ReadsBack reader c)
    (hresult : ReadsBack reader result) :
    block? reader (.group .brace (mayStayUnchanged ++
        [.word "let", .word "mut", .word name, .punct '=' false] ++
        tokens start ++ [.punct ';' false] ++ statements steps ++
        tokens result))
      = some (.building name start steps result) := by
  have hparts := codes?_statements
    (List.forall_mem_cons.2 ⟨hstart, hsteps⟩) hresult
  have hbuilt : building? name (start :: steps ++ [result], false)
      = some (.building name start steps result) := by
    rw [List.cons_append, building?, List.getLast?_concat,
      List.dropLast_concat, Option.map_some]
  have hread : (codes? reader ';' []
        (statements (start :: steps) ++ result.tokens)).bind
          (building? name)
      = some (.building name start steps result) := by
    rw [hparts, Option.bind_some, hbuilt]
  rw [← hread]
  simp only [statements, List.append_assoc]
  rfl

theorem block?_naming (name : String) {type : CodeType}
    {value result : Code} (htype : type.Readable)
    (hvalue : ReadsBack reader value) (hresult : ReadsBack reader result) :
    block? reader (.group .brace
        ([.word "let", .word name, .punct ':' false] ++ type.tokens ++
          [.punct '=' false] ++ tokens value ++ [.punct ';' false] ++
          tokens result))
      = some (.naming name type value result) := by
  have hparts := codes?_statements
    (List.forall_mem_singleton.2 hvalue) hresult
  have hnamed : naming? name type.tokens ([value] ++ [result], false)
      = some (.naming name type value result) := by
    have hread := CodeType.read?_tokens htype (.inl rfl)
    rw [List.append_nil] at hread
    rw [List.singleton_append, naming?, hread]
  have hread := declared?_type reader name
    type.equals_not_mem_tokens []
    (statements [value] ++ result.tokens)
  rw [hparts, Option.bind_some, List.nil_append, hnamed] at hread
  rw [← hread]
  simp only [statements, List.append_assoc, List.append_nil]
  rfl

/-- Readable code is read off the head of tokens. -/
theorem Readable.readsBack {c : Code} (h : c.Readable reader) :
    ReadsBack reader c := by
  induction h with
  | literal spelling =>
      exact ⟨List.cons_ne_nil _ _, fun sep rest _ _ => rfl⟩
  | named name =>
      refine ⟨List.cons_ne_nil _ _, fun sep rest hsep hrest => ?_⟩
      -- behind a name a point would begin a method
      obtain rfl | ⟨joint, more, rfl⟩ := hrest
      · rfl
      · rw [tokens, List.singleton_append, Token.word, codes?]
        intro _ _ _ _ hpoint
        exact hsep (Token.punct.inj (List.cons.inj hpoint).1).1
  | @conversion path e hpath hpasses =>
      refine readsBack_conversion hpath ?_
      rw [tokens_ofExpression]
      exact expressions?_of_passes hpasses
  | quotation hpath l =>
      exact readsBack_conversion hpath (expressions?_literal l)
  | call hpath hplain hlong _ ih =>
      exact readsBack_call hpath hplain (codes?_items ih _ hlong)
  | @method receiver name arguments hsome _ ih =>
      have harguments := codes?_items ih true fun _ => hsome
      refine ⟨List.cons_ne_nil _ _, fun sep rest _ _ => ?_⟩
      show codes? reader sep [] (.ident false receiver :: .punct '.' false
        :: .ident false name ::
        .group .paren (items arguments ++ lastComma true) :: rest) = _
      rw [codes?, within?, harguments]
      rfl
  | @list elements _ ih =>
      have helements := codes?_items ih false
        fun hlong => absurd hlong Bool.false_ne_true
      rw [lastComma, if_neg (by decide), List.append_nil] at helements
      refine ⟨by simp [tokens], fun sep rest _ _ => ?_⟩
      rw [tokens, List.append_assoc, codes?_pathTokens, List.nil_append]
      show codes? reader sep ["std", "vec"] (.punct '!' false ::
        .group .bracket (items elements) :: rest) = _
      rw [codes?, within?, helements]
      rfl
  | building name _ _ _ ihstart ihsteps ihresult =>
      exact readsBack_block rfl
        (block?_building name ihstart ihsteps ihresult)
  | naming name htype _ _ ihvalue ihresult =>
      exact readsBack_block rfl (block?_naming name htype ihvalue ihresult)

/-- Readable code is read back from its tokens. -/
theorem read?_tokens {c : Code} (h : c.Readable reader) :
    read? reader c.tokens = some c := by
  have hread := h.readsBack.2 ',' [] (by decide) (.inl rfl)
  rw [List.append_nil] at hread
  rw [read?, hread]
  rfl

-- ====================================================== code of a view

theorem readable_ofText (t : String) : (ofText t).Readable reader :=
  .literal _

/-- Values are read back as what conversions are given. -/
theorem readable_ofAttrValue {v : AttrValue}
    (h : ∀ e ∈ v.embedded, reader.Passes e) :
    (Code.call ["rule_render", "Value", "from"] false
      [ofAttrValue v]).Readable reader := by
  cases v with
  | literal l => exact .quotation rfl l
  | expr e => exact .conversion rfl (h e List.mem_cons_self)

theorem readable_ofAttribute {a : Attribute}
    (h : ∀ e ∈ a.value.embedded, reader.Passes e) :
    (ofAttribute a).Readable reader := by
  have hname : (Code.call ["std", "string", "String", "from"] false
      [ofText a.name.text]).Readable reader :=
    .call nofun rfl nofun
      (List.forall_mem_singleton.2 (readable_ofText a.name.text))
  exact .method _ _ nofun (List.forall_mem_cons.2
    ⟨hname, List.forall_mem_singleton.2 (readable_ofAttrValue h)⟩)

theorem readable_ofAttributes {attrs : List Attribute}
    (h : ∀ e ∈ embeddedIn attrs, reader.Passes e) :
    (ofAttributes attrs).Readable reader := by
  refine .building _ (.call nofun rfl nofun nofun) ?_ (.named _)
  intro c hc
  obtain ⟨a, ha, rfl⟩ := List.mem_map.1 hc
  exact readable_ofAttribute fun e he =>
    h e (List.mem_flatMap.2 ⟨a, ha, he⟩)

theorem readable_ofElement (tag : Name) {attrs : List Attribute}
    {children : List Code}
    (hattrs : ∀ e ∈ embeddedIn attrs, reader.Passes e)
    (hchildren : ∀ c ∈ children, c.Readable reader) :
    (ofElement tag attrs children).Readable reader := by
  refine .call nofun rfl nofun ?_
  refine List.forall_mem_cons.2 ⟨readable_ofText tag.text, ?_⟩
  exact List.forall_mem_cons.2 ⟨readable_ofAttributes hattrs,
    List.forall_mem_singleton.2 (.list hchildren)⟩

mutual

theorem readable_ofNode (n : Node)
    (h : ∀ e ∈ n.embedded, reader.Passes e) :
    (ofNode n).Readable reader := by
  cases n with
  | element tag attrs children =>
      obtain ⟨hattrs, hchildren⟩ := List.forall_mem_append.1 h
      exact readable_ofElement tag hattrs
        (readable_ofNodes children hchildren)
  | single tag attrs => exact readable_ofElement tag h nofun
  | text value =>
      exact .call nofun rfl nofun
        (List.forall_mem_singleton.2 (readable_ofText value))
  | expr e => exact .conversion rfl (h e List.mem_cons_self)
termination_by structural n

theorem readable_ofNodes (ns : List Node)
    (h : ∀ e ∈ Node.embeddedAll ns, reader.Passes e) :
    ∀ c ∈ ofNodes ns, c.Readable reader := by
  cases ns with
  | nil => exact nofun
  | cons n ns =>
      obtain ⟨hn, hns⟩ := List.forall_mem_append.1 h
      exact List.forall_mem_cons.2
        ⟨readable_ofNode n hn, readable_ofNodes ns hns⟩
termination_by structural ns

end

/-- The code of a view is read back from its tokens. -/
theorem read?_ofView {nodes : List Node}
    (h : ∀ e ∈ Node.embeddedAll nodes, reader.Passes e) :
    read? reader (ofView nodes).tokens = some (ofView nodes) :=
  read?_tokens (.naming _ ⟨nofun, nofun⟩
    (.list (readable_ofNodes nodes h)) (.named _))

end Code

end RuledList.View
