/-
Operators between operands, and statements.

Operators are read by binding strength. The strengths are, from the
weakest: keywords that take a value, assignments, ranges, or, and, let,
comparisons, the three bitwise operators, shifts, sums, products, casts.
Assignments lean right, everything else left; comparisons do not chain
and nothing follows a range.
-/
import RuledList.View.Expression.Item

namespace RuledList.View.Expression

-- ============================================================== operators

/-- The binding strength of a comparison. -/
def comparing : Nat := 6

/-- The operators of two operands with their binding strengths, longer
spellings before their beginnings. -/
def binaryOperators : List (String × Nat) :=
  [("+=", 1), ("-=", 1), ("*=", 1), ("/=", 1), ("%=", 1), ("^=", 1),
    ("&=", 1), ("|=", 1), ("<<=", 1), (">>=", 1), ("&&", 4), ("||", 3),
    ("<<", 10), (">>", 10), ("==", 6), ("<=", 6), ("!=", 6), (">=", 6),
    ("+", 11), ("-", 11), ("*", 12), ("/", 12), ("%", 12), ("^", 8),
    ("&", 9), ("|", 7), ("<", 6), (">", 6)]

/-- The operator of two operands that comes next, with its strength. -/
def binaryOperator? (ts : List Token) : Option (String × Nat) :=
  binaryOperators.find? fun o => atOp o.1 ts

/-- Whether an assignment's sign comes next. -/
def atAssign (ts : List Token) : Bool := atOnly "=" ["==", "=>"] ts

/-- The strength of what comes next, if it joins operands. -/
def strengthAt (ts : List Token) : Nat :=
  match binaryOperator? ts with
  | some (_, strength) => strength
  | none =>
    if atOnly "=" ["=>"] ts then 1
    else if atOp ".." ts then 2
    else if atWord "as" ts then 13
    else 0

/-- Whether a cast may not be followed by what comes next. -/
def endsCastBadly (ts : List Token) : Bool :=
  atOnly "." [".."] ts || atOp "?" ts || atGroup .bracket ts ||
    atGroup .paren ts

/-- The operators after an operand, down to a strength, with what they
join to it. -/
def operatorsRule (g : Grammar) (struct : Bool) (strength : Nat) :
    Step := fun c =>
  if c.shape = .range then some c
  else
    match binaryOperator? c.rest with
    | some (sign, s) =>
      if s < strength then some c
      else if s = comparing ∧ c.shape = .comparison then none
      else do
        let c ← op sign c
        let c ← g (.rightSide struct s) c
        g (.operators struct strength)
          (c.as (if s = comparing then .comparison else .other))
    | none =>
      if strength ≤ 1 && atAssign c.rest then do
        let c ← op "=" c
        let c ← g (.rightSide struct 1) c
        g (.operators struct strength) (c.as .other)
      else if strength ≤ 2 && atOp ".." c.rest then do
        let c ← rangeTail g struct c
        g (.operators struct strength) c
      else if strength ≤ 13 && atWord "as" c.rest then do
        let c ← word "as" c
        let c ← g (.type false) c
        if endsCastBadly c.rest then none
        else g (.operators struct strength) (c.as .other)
      else some c

/-- An operand and the operators after it that bind more strongly. -/
def rightSideRule (g : Grammar) (struct : Bool) (strength : Nat) :
    Step := fun c => do
  let c ← g (.unary struct) c
  g (.climb struct strength) c

/-- The operators after an operand that bind more strongly than the one
before it. -/
def climbRule (g : Grammar) (struct : Bool) (strength : Nat) :
    Step := fun c =>
  let next := strengthAt c.rest
  if strength < next || (next = strength && strength = 1) then do
    let before := c.rest.length
    let c ← g (.operators struct next) c
    if c.rest.length = before then some c
    else g (.climb struct strength) c
  else some c

/-- An operand with its leading operators and attributes. -/
def unaryRule (g : Grammar) (struct : Bool) : Step := fun c => do
  let marked := atOp "#" c.rest
  let c ← g .attributes c
  let c ←
    if atOp "&" c.rest then do
      let c ← op "&" c
      let next := c.rest.drop 1
      let c ←
        if atWord "raw" c.rest &&
            (atWord "mut" next || atWord "const" next) then
          andThen (word "raw") token c
        else optWord "mut" c
      let c ← g (.unary struct) c
      some (c.as .other)
    else if atOp "*" c.rest || atOp "!" c.rest || atOp "-" c.rest then do
      let c ← (if atOp "*" c.rest then op "*"
        else if atOp "!" c.rest then op "!" else op "-") c
      let c ← g (.unary struct) c
      some (c.as .other)
    else g (.operand struct) c
  if marked && c.shape = .range then none else some c

/-- An expression. -/
def exprRule (g : Grammar) (struct : Bool) : Step := fun c => do
  let c ← g (.unary struct) c
  g (.operators struct 0) c

-- ============================================================= statements

/-- Whether tokens start with what is read as a block at the head of a
statement. -/
def atBlockLike (ts : List Token) : Bool :=
  let next := ts.drop 1
  atWord "if" ts || atWord "while" ts || atWord "loop" ts ||
    atWord "match" ts || atWord "unsafe" ts || atGroup .brace ts ||
    atLifetime ts || (atWord "try" ts && atGroup .brace next) ||
    (atWord "const" ts && atGroup .brace next) ||
    (atWord "for" ts && !(atOp "<" next &&
      (atLifetime (next.drop 1) || atOp ">" (next.drop 1))))

/-- An expression at the head of a statement or of a match arm: a
block-like one ends there unless a dot or a question mark follows. -/
def earlyRule (g : Grammar) : Step := fun c => do
  let c ← g .attributes c
  if atBlockLike c.rest then
    let c ← operandRule g true c
    if atOnly "." [".."] c.rest || atOp "?" c.rest then
      let c ← g .trailers c
      g (.operators true 0) c
    else some c
  else do
    let c ← g (.unary true) c
    if c.shape = .blockLike then some c else g (.operators true 0) c

/-- Whether the last thing read was a group in braces. -/
def endsWithBrace (c : Cursor) : Bool :=
  match c.seen with
  | .group .brace _ :: _ => true
  | _ => false

/-- A declaration of variables. -/
def letStatement (g : Grammar) : Step := fun c => do
  let c ← word "let" c
  let c ← g .pattern c
  let c ← whenAt (atOp ":") (andThen (op ":") (g (.type true))) c
  let c ←
    if atOp "=" c.rest then do
      let c ← op "=" c
      let c ← g (.expr true) c
      if atWord "else" c.rest && !endsWithBrace c then
        andThen (word "else") (block g) c
      else some c
    else some c
  op ";" c

/-- Whether tokens start with a macro call in braces that is a statement
by itself. -/
def atMacroStatement (ts : List Token) : Bool :=
  match plainPath ⟨[], ts, true, .other⟩ with
  | some c =>
    let follow := c.rest.drop 2
    atOp "!" c.rest && atGroup .brace (c.rest.drop 1) &&
      !(atOnly "." [".."] follow || atOp "?" follow)
  | none => false

/-- One statement that is an expression, with its semicolon. Without one
it must end the block or be block-like. -/
def expressionStatement (g : Grammar) : Step := fun c => do
  let c ←
    if atMacroStatement c.rest then
      (andThen plainPath (andThen (op "!") rawGroup) c).map fun c =>
        c.as .braceMacro
    else g .early c
  let open_ := c.shape != .blockLike && c.shape != .braceMacro
  if atOp ";" c.rest then op ";" c
  else if open_ && !c.rest.isEmpty then none
  else some c

/-- The inside of a block: statements, items, and semicolons by
themselves. -/
def statementsRule (g : Grammar) : Step := fun c =>
  if c.rest.isEmpty then some c
  else if atOp ";" c.rest then do
    let c ← op ";" c
    g .statements c
  else do
    let c ← g .attributes c
    let c ← if atWord "let" c.rest then letStatement g c
      else if atItem c.rest then item g c
      else expressionStatement g c
    g .statements c

end RuledList.View.Expression
