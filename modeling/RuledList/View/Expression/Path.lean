/-
Paths and types.
-/
import RuledList.View.Expression.Goal

namespace RuledList.View.Expression

-- ================================================================= paths

/-- Whether tokens start with a path. -/
def atPath (ts : List Token) : Bool :=
  atName ts || atPathWord ts || atOp "::" ts || atOp "<" ts

/-- One segment of a path with its generic arguments. -/
def segmentRule (g : Grammar) (inExpr : Bool) (single : Bool) : Step :=
  fun c => do
    let bare := atWord "super" c.rest || atWord "self" c.rest ||
      atWord "crate" c.rest || atWord "try" c.rest
    let c ←
      if bare || atWord "Self" c.rest then anyIdent c else name c
    if bare then some (c.as (.path single true))
    else if (!inExpr && atOnly "<" ["<="] c.rest) ||
        (atOp "::" c.rest && atOp "<" (c.rest.drop 2)) then
      let c ← optOp "::" c
      let c ← op "<" c
      let c ← g .angles c
      some (c.as (.path single false))
    else some (c.as (.path single true))

/-- The further segments of a path. A double colon before parentheses
belongs to what follows. -/
def segmentsRule (g : Grammar) (inExpr : Bool) : Step := fun c =>
  if atOp "::" c.rest && !atGroup .paren (c.rest.drop 2) then do
    let plain := match c.shape with
      | .path _ plain => plain
      | _ => false
    let c ← op "::" c
    let c ← segmentRule g inExpr false c
    let c := match c.shape with
      | .path _ p => c.as (.path false (plain && p))
      | _ => c
    g (.segments inExpr) c
  else some c

/-- The further segments after a beginning qualified by a type. -/
def qualifiedRest (g : Grammar) (inExpr : Bool) : Step := fun c =>
  if atOp "::" c.rest then do
    let c ← op "::" c
    let c ← segmentRule g inExpr false c
    g (.segments inExpr) c
  else some c

/-- A path, perhaps one qualified by a type in angle brackets. -/
def pathRule (g : Grammar) (inExpr : Bool) : Step := fun c =>
  if atOp "<" c.rest then do
    let c ← op "<" c
    let c ← g (.type true) c
    let c ← whenAt (atWord "as")
      (andThen (word "as") (g (.path false))) c
    let c ← op ">" c
    let c ← op "::" c
    let c ← segmentRule g inExpr false c
    let c ← qualifiedRest g inExpr c
    some (c.as (.path false false))
  else do
    let leading := atOp "::" c.rest
    let c ← optOp "::" c
    let c ← segmentRule g inExpr (!leading) c
    g (.segments inExpr) c

-- ===================================================== generic arguments

/-- A constant among generic arguments. -/
def constArgument (g : Grammar) : Step := fun c =>
  if atSignedLiteral c.rest then signedLiteral c
  else group .brace (g .statements) c

/-- Whether tokens start with a constant among generic arguments. -/
def atConstArgument (ts : List Token) : Bool :=
  atSignedLiteral ts || atGroup .brace ts

/-- One generic argument: a lifetime, a constant, a type, an associated
type or constant, or bounds on an associated type. -/
def argumentRule (g : Grammar) : Step := fun c =>
  if atLifetime c.rest && !atOp "+" (c.rest.drop 2) then lifetime c
  else if atConstArgument c.rest then constArgument g c
  else do
    let c ← g (.type true) c
    let single := match c.shape with
      | .path single _ => single
      | _ => false
    if single && atOp "=" c.rest then
      let c ← op "=" c
      if atConstArgument c.rest then constArgument g c
      else g (.type true) c
    else if single && atOp ":" c.rest then
      let c ← op ":" c
      if atOp "," c.rest || atOp ">" c.rest then some c
      else g .bounds c
    else some c

/-- The arguments between angle brackets, the closing one included. -/
def anglesRule (g : Grammar) : Step := fun c =>
  if atOp ">" c.rest then op ">" c
  else do
    let c ← argumentRule g c
    if atOp ">" c.rest then op ">" c
    else
      let c ← op "," c
      g .angles c

-- ================================================================ bounds

/-- Lifetimes with commas between them, and the closing bracket. -/
def lifetimes : (fuel : Nat) → Step
  | 0, _ => none
  | fuel + 1, c =>
    if atOp ">" c.rest then op ">" c
    else do
      let c ← lifetime c
      if atOp ">" c.rest then op ">" c
      else
        let c ← op "," c
        lifetimes fuel c

/-- The lifetimes that a bound or a function type is made for. -/
def forLifetimes : Step := fun c =>
  if atWord "for" c.rest then do
    let c ← word "for" c
    let c ← op "<" c
    lifetimes c.rest.length c
  else some c

/-- The type after an arrow, if an arrow comes next. -/
def returnType (g : Grammar) (plus : Bool) : Step :=
  whenAt (atOp "->") (andThen (op "->") (g (.type plus)))

/-- Whether tokens start with argument types in parentheses. -/
def atCallTypes (ts : List Token) : Bool :=
  atGroup .paren ts ||
    (atOp "::" ts && atGroup .paren (ts.drop 2))

/-- Argument types in parentheses and the type of the result. -/
def callTypes (g : Grammar) : Step := fun c => do
  let c ← optOp "::" c
  let c ← group .paren (g (.commas (.type true))) c
  returnType g false c

/-- Whether the last thing read was a closing angle bracket. -/
def endsGeneric (c : Cursor) : Bool :=
  match c.seen with
  | .punct '>' _ :: _ => true
  | _ => false

/-- The trait of a bound. -/
def traitBound (g : Grammar) : Step := fun c => do
  let c ← optOp "?" c
  let c ← forLifetimes c
  let c ← g (.path false) c
  match c.shape with
  | .path _ _ =>
    whenAt (fun ts => atCallTypes ts && !endsGeneric c) (callTypes g) c
  | _ => some c

/-- One bound: a lifetime or a trait, which may stand in
parentheses. -/
def boundRule (g : Grammar) : Step := fun c =>
  if atLifetime c.rest then lifetime c
  else if atGroup .paren c.rest then group .paren (traitBound g) c
  else traitBound g c

/-- Whether tokens start with a bound. -/
def atBound (ts : List Token) : Bool :=
  atIdent ts || atOp "::" ts || atOp "?" ts || atLifetime ts ||
    atGroup .paren ts

/-- Bounds joined by plus signs; a plus sign may stand after the
last. -/
def boundsRule (g : Grammar) : Step := fun c => do
  let c ← g .bound c
  if atOp "+" c.rest then
    let c ← op "+" c
    if atBound c.rest then g .bounds c else some c
  else some c

-- ================================================================= types

/-- The inside of a type in parentheses: nothing, a type, or types with
commas. -/
def parenTypes (g : Grammar) : Step := fun c =>
  if c.rest.isEmpty then some c
  else if atLifetime c.rest || atOp "?" c.rest then g .bounds c
  else do
    let c ← g (.type true) c
    if atOp "," c.rest then
      let c ← op "," c
      g (.commas (.type true)) c
    else some c

/-- The inside of a type in brackets: an element type, with a length
after a semicolon if it is an array. -/
def bracketTypes (g : Grammar) : Step := fun c => do
  let c ← g (.type true) c
  if atOp ";" c.rest then
    let c ← op ";" c
    g (.expr true) c
  else some c

/-- The parameters of a function type, each with a name if it likes. -/
def functionTypesRule (g : Grammar) : Step := fun c =>
  if c.rest.isEmpty then some c
  else do
    let c ← g .attributes c
    let named := (atName c.rest || atWord "_" c.rest ||
      atWord "self" c.rest) && atOnly ":" ["::"] (c.rest.drop 1)
    let c ←
      if named then andThen token (op ":") c else some c
    let c ← if atOp "..." c.rest then op "..." c else g (.type true) c
    if c.rest.isEmpty then some c
    else
      let c ← op "," c
      g .functionTypes c

/-- A function type. -/
def functionType (g : Grammar) : Step := fun c => do
  let c ← optWord "unsafe" c
  let c ← whenAt (atWord "extern")
    (andThen (word "extern") (whenAt atLiteral literal)) c
  let c ← word "fn" c
  let c ← group .paren (g .functionTypes) c
  returnType g false c

/-- Further bounds after a type that is one, where a sum may stand. -/
def sumRest (g : Grammar) (plus : Bool) : Step := fun c =>
  if plus && atOp "+" c.rest then do
    let c ← op "+" c
    let c ← whenAt atBound (g .bounds) c
    some (c.as .other)
  else some (c.as .other)

/-- A type that is a path, with what may follow one: argument types, a
macro's arguments, or further bounds. -/
def pathType (g : Grammar) (plus : Bool) (bound : Bool) : Step := fun c => do
  let qualified := atOp "<" c.rest
  let c ← g (.path false) c
  let shape := c.shape
  if atCallTypes c.rest && !endsGeneric c then
    let c ← callTypes g c
    let c ← g (.segments false) c
    sumRest g plus c
  else if qualified then some c
  else if atOnly "!" ["!="] c.rest &&
      (match shape with | .path _ plain => plain | _ => false) then
    andThen (op "!") rawGroup c
  else if bound || (plus && atOp "+" c.rest) then sumRest g plus c
  else some (c.as shape)

/-- A type. -/
def typeRule (g : Grammar) (plus : Bool) : Step := fun c => do
  let made := atWord "for" c.rest
  let c ← forLifetimes c
  let bounds : Step := if plus then g .bounds else g .bound
  let c' ←
    if atGroup .paren c.rest && !made then do
      let c ← group .paren (parenTypes g) c
      if plus && atOp "+" c.rest then
        andThen (op "+") (whenAt atBound (g .bounds)) c
      else some c
    else if atWord "fn" c.rest || atWord "unsafe" c.rest ||
        atWord "extern" c.rest then functionType g c
    else if atPath c.rest then return ← pathType g plus made c
    else if made then none
    else if atWord "dyn" c.rest then andThen (word "dyn") bounds c
    else if atWord "impl" c.rest then andThen (word "impl") bounds c
    else if atGroup .bracket c.rest then group .bracket (bracketTypes g) c
    else if atOp "*" c.rest then do
      let c ← op "*" c
      let c ← if atWord "const" c.rest then word "const" c
        else word "mut" c
      g (.type false) c
    else if atOp "&" c.rest then do
      let c ← op "&" c
      let c ← whenAt atLifetime lifetime c
      let c ← optWord "mut" c
      g (.type false) c
    else if atOnly "!" ["!="] c.rest then op "!" c
    else if atWord "_" c.rest then word "_" c
    else if atLifetime c.rest then bounds c
    else none
  some (c'.as .other)

end RuledList.View.Expression
