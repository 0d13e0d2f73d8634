/-
Operands: what operators join. An operand is a literal, a path with
what may follow it, a group, a closure, a block or a keyword's own
form; calls, fields, indices and question marks may follow it.
-/
import RuledList.View.Expression.Pattern

namespace RuledList.View.Expression

-- ================================================================ blocks

/-- A block. -/
def block (g : Grammar) : Step := group .brace (g .statements)

/-- A block that attributes may head. -/
def headedBlock (g : Grammar) : Step :=
  group .brace (andThen (g .innerAttributes) (g .statements))

/-- A keyword and a block that attributes may head. -/
def wordBlock (g : Grammar) (s : String) : Step :=
  andThen (word s) (headedBlock g)

/-- The rest of a conditional, its keyword included: condition, block,
and perhaps another conditional or a last block. -/
def conditionalRule (g : Grammar) : Step := fun c => do
  let c ← word "if" c
  let c ← g (.expr false) c
  let c ← block g c
  let c ←
    if atWord "else" c.rest then do
      let c ← word "else" c
      if atWord "if" c.rest then g .conditional c else block g c
    else some c
  some (c.as .blockLike)

/-- A loop. The pattern of a counted loop may have alternatives. -/
def loopRule (g : Grammar) : Step := fun c => do
  let c ←
    if atWord "while" c.rest then do
      let c ← word "while" c
      let c ← g (.expr false) c
      headedBlock g c
    else if atWord "for" c.rest then do
      let c ← word "for" c
      let c ← g .patterns c
      let c ← word "in" c
      let c ← g (.expr false) c
      headedBlock g c
    else wordBlock g "loop" c
  some (c.as .blockLike)

/-- A loop or a block with a label. -/
def labelled (g : Grammar) : Step := fun c => do
  let c ← lifetime c
  let c ← op ":" c
  if atGroup .brace c.rest then
    (headedBlock g c).map fun c => c.as .blockLike
  else loopRule g c

/-- The arms of a match: patterns, perhaps a guard, and an expression. A
comma may be missing after the last arm and after a block. -/
def armsRule (g : Grammar) : Step := fun c =>
  if c.rest.isEmpty then some c
  else do
    let c ← g .attributes c
    let c ← g .patterns c
    let c ← whenAt (atWord "if")
      (andThen (word "if") (g (.expr true))) c
    let c ← op "=>" c
    let c ← g .early c
    let c ←
      if c.shape != .blockLike && !c.rest.isEmpty then op "," c
      else optOp "," c
    g .arms c

/-- A match. -/
def matchRule (g : Grammar) : Step := fun c => do
  let c ← word "match" c
  let c ← g (.expr false) c
  let c ← group .brace (andThen (g .innerAttributes) (g .arms)) c
  some (c.as .blockLike)

-- =============================================================== closures

/-- Whether tokens start with a closure. -/
def atClosure (ts : List Token) : Bool :=
  let next := ts.drop 1
  atOp "|" ts || atWord "move" ts ||
    (atWord "for" ts && atOp "<" next &&
      (atLifetime (next.drop 1) || atOp ">" (next.drop 1))) ||
    (atWord "const" ts && !atGroup .brace next) || atWord "static" ts ||
    (atWord "async" ts && (atOp "|" next || atWord "move" next))

/-- The parameters of a closure, the closing bar included: patterns,
each with a type if it likes. -/
def parametersRule (g : Grammar) : Step := fun c =>
  if atOp "|" c.rest then op "|" c
  else do
    let c ← g .attributes c
    let c ← g .pattern c
    let c ← whenAt (atOp ":") (andThen (op ":") (g (.type true))) c
    if atOp "|" c.rest then op "|" c
    else
      let c ← op "," c
      g .parameters c

/-- A closure. With the type of its result its body is a block. -/
def closure (g : Grammar) (struct : Bool) : Step := fun c => do
  let c ← forLifetimes c
  let c ← optWord "const" c
  let c ← optWord "static" c
  let c ← optWord "async" c
  let c ← optWord "move" c
  let c ← op "|" c
  let c ← g .parameters c
  if atOp "->" c.rest then
    let c ← op "->" c
    let c ← g (.type true) c
    block g c
  else g (.expr struct) c

-- ============================================================== the forms

/-- Whether tokens start with an expression, so that a `return` or a
`break` takes it as its value. -/
def atExpression (ts : List Token) : Bool :=
  (atIdent ts && !atWord "as" ts) || atGroup .paren ts ||
    atGroup .bracket ts || atGroup .brace ts || atLiteral ts ||
    atOnly "!" ["!="] ts || atOnly "-" ["-=", "->"] ts ||
    atOnly "*" ["*="] ts || atOnly "|" ["|="] ts ||
    atOnly "&" ["&="] ts || atOp ".." ts ||
    atOnly "<" ["<=", "<<="] ts || atOp "::" ts || atLifetime ts ||
    atOp "#" ts

/-- One field of a struct literal: a place needs a value, a name may
stand for the variable of that name. -/
def field (g : Grammar) : Step := fun c => do
  let c ← g .attributes c
  if atName c.rest && !atOp ":" (c.rest.drop 1) then name c
  else do
    let c ← member c
    let c ← op ":" c
    g (.expr true) c

/-- The fields of a struct literal; two dots may end them, with the
value that has the others. -/
def fieldsRule (g : Grammar) : Step := fun c =>
  if c.rest.isEmpty then some c
  else if atOp ".." c.rest then do
    let c ← op ".." c
    if c.rest.isEmpty then some c else g (.expr true) c
  else do
    let c ← field g c
    if c.rest.isEmpty then some c
    else
      let c ← op "," c
      g .fields c

/-- A path with what makes it a macro call or a struct literal. -/
def pathOperand (g : Grammar) (struct : Bool) : Step := fun c => do
  let qualified := atOp "<" c.rest
  let c ← g (.path true) c
  let plain := match c.shape with
    | .path _ plain => plain
    | _ => false
  if !qualified && plain && atOnly "!" ["!="] c.rest then
    let c ← op "!" c
    let brace := atGroup .brace c.rest
    let c ← rawGroup c
    some (c.as (if brace then .braceMacro else .other))
  else if struct && atGroup .brace c.rest then
    group .brace (g .fields) c
  else some c

/-- The inside of parentheses: nothing, an expression, or expressions
with commas. -/
def parenInside (g : Grammar) : Step := fun c =>
  if c.rest.isEmpty then some c
  else do
    let c ← g (.expr true) c
    if c.rest.isEmpty then some c
    else
      let c ← op "," c
      g (.commas (.expr true)) c

/-- The inside of brackets: expressions with commas, or an expression
and how often it is repeated. -/
def bracketInside (g : Grammar) : Step := fun c =>
  if c.rest.isEmpty then some c
  else do
    let c ← g (.expr true) c
    if c.rest.isEmpty then some c
    else if atOp ";" c.rest then
      let c ← op ";" c
      g (.expr true) c
    else
      let c ← op "," c
      g (.commas (.expr true)) c

/-- A `break`: perhaps a label, perhaps a value. A labelled value must
stand in parentheses. -/
def breakRule (g : Grammar) (struct : Bool) : Step := fun c => do
  let c ← word "break" c
  if atLifetime c.rest && atOp ":" (c.rest.drop 2) then none
  else
    let c ← whenAt atLifetime lifetime c
    if atExpression c.rest && (struct || !atGroup .brace c.rest) then
      g (.expr struct) c
    else some c

/-- A keyword that takes a value if one comes next. -/
def wordValue (g : Grammar) (s : String) : Step :=
  andThen (word s) (whenAt atExpression (g (.expr true)))

/-- Whether no end of a range comes next. -/
def atOpenEnd (struct : Bool) (ts : List Token) : Bool :=
  ts.isEmpty || atOp "," ts || atOp ";" ts || atOnly "." [".."] ts ||
    atOp "?" ts || atOp "=>" ts || (!struct && atGroup .brace ts) ||
    atOp "=" ts || atOp "+" ts || atOp "/" ts || atOp "%" ts ||
    atOp "^" ts || atOp ">" ts || atOp "<=" ts || atOp "!=" ts ||
    atOp "-=" ts || atOp "*=" ts || atOp "&=" ts || atOp "|=" ts ||
    atOp "<<=" ts || atWord "as" ts

/-- A range from its dots on; only a half-open one may lack its end. -/
def rangeTail (g : Grammar) (struct : Bool) : Step := fun c => do
  let half := dots c.rest = 2
  let c ← rangeDots false c
  let c ←
    if half && atOpenEnd struct c.rest then some c
    else g (.rightSide struct 2) c
  some (c.as .range)

/-- A pattern that an expression is held against. -/
def letRule (g : Grammar) (struct : Bool) : Step := fun c => do
  let c ← word "let" c
  let c ← g .patterns c
  let c ← op "=" c
  g (.rightSide struct 6) c

/-- An operand without what may follow it. -/
def operandRule (g : Grammar) (struct : Bool) : Step := fun c => do
  let ts := c.rest
  let next := ts.drop 1
  let asBlock (s : Step) : Step := fun c =>
    (s c).map fun c => c.as .blockLike
  let plain (s : Step) : Step := fun c => (s c).map fun c => c.as .other
  if atLiteral ts then plain literal c
  else if atWord "async" ts && (atGroup .brace next ||
      (atWord "move" next && atGroup .brace (next.drop 1))) then
    plain (andThen (word "async") (andThen (optWord "move") (block g))) c
  else if atWord "try" ts && atGroup .brace next then
    asBlock (andThen (word "try") (block g)) c
  else if atClosure ts then plain (closure g struct) c
  else if atPath ts ||
      (atWord "try" ts && (atOp "!" next || atOp "::" next)) then
    pathOperand g struct c
  else if atGroup .paren ts then group .paren (parenInside g) c
  else if atWord "break" ts then plain (breakRule g struct) c
  else if atWord "continue" ts then
    plain (andThen (word "continue") (whenAt atLifetime lifetime)) c
  else if atWord "return" ts then plain (wordValue g "return") c
  else if atWord "become" ts then
    plain (andThen (word "become") (g (.expr true))) c
  else if atGroup .bracket ts then group .bracket (bracketInside g) c
  else if atWord "let" ts then plain (letRule g struct) c
  else if atWord "if" ts then g .conditional c
  else if atWord "while" ts || atWord "for" ts || atWord "loop" ts then
    loopRule g c
  else if atWord "match" ts then matchRule g c
  else if atWord "yield" ts then plain (wordValue g "yield") c
  else if atWord "unsafe" ts then asBlock (wordBlock g "unsafe") c
  else if atWord "const" ts then asBlock (wordBlock g "const") c
  else if atGroup .brace ts then asBlock (headedBlock g) c
  else if atOp ".." ts then rangeTail g struct c
  else if atWord "_" ts then word "_" c
  else if atLifetime ts then labelled g c
  else none

-- =============================================================== trailers

/-- The parts of a number that names places in nested tuples, with a dot
between them; a dot may end it. -/
def placesOfLiteral? (spelling : String) : Option (List Token × Bool) :=
  let parts := spelling.splitOn "."
  let open_ := parts.getLast? == some ""
  let named := if open_ then parts.dropLast else parts
  (named.mapM placeOfLiteral?).map fun places =>
    ((places.map fun n => Token.literal (toString n)).intersperse
      (.punct '.' false) ++
      (if open_ then [.punct '.' false] else []), open_)

/-- Whether a literal is a number with a point or an exponent. -/
def isFloatLiteral (spelling : String) : Bool :=
  let cs := spelling.toList
  cs.head?.any Char.isDigit && (floatEnd? cs).isSome

/-- What follows a dot: a place, a name, a method with its arguments, or
`await`. -/
def afterDot (g : Grammar) : Step := fun c =>
  if atWord "await" c.rest then word "await" c
  else do
    let named := atName c.rest
    let c ← member c
    if named && atOp "::" c.rest then
      let c ← op "::" c
      let c ← op "<" c
      let c ← g .angles c
      group .paren (g (.commas (.expr true))) c
    else if named && atGroup .paren c.rest then
      group .paren (g (.commas (.expr true))) c
    else some c

/-- A dot and what follows it. Two places with a point between them are
read as one number, and come apart. -/
def dotRule (g : Grammar) : Step := fun c => do
  let c ← op "." c
  match c.rest with
  | .literal spelling :: _ =>
    if isFloatLiteral spelling then
      let (places, open_) ← placesOfLiteral? spelling
      let c := c.pass places 1
      if open_ then afterDot g c else some c
    else afterDot g c
  | _ => afterDot g c

/-- Calls, fields, indices and question marks after an operand. -/
def trailersRule (g : Grammar) : Step := fun c =>
  let go (s : Step) : Option Cursor := do
    let c ← s c
    g .trailers (c.as .other)
  if atGroup .paren c.rest then
    go (group .paren (g (.commas (.expr true))))
  else if atOnly "." [".."] c.rest && c.shape != .range then
    go (dotRule g)
  else if atGroup .bracket c.rest then
    go (group .bracket (g (.expr true)))
  else if atOp "?" c.rest && c.shape != .range then go (op "?")
  else some c

end RuledList.View.Expression
