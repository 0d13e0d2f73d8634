/-
What declarations are made of: who may see them, the parameters that
they are generic in with the conditions on these, the signatures of
functions, and fields.
-/
import RuledList.View.Expression.Operand

namespace RuledList.View.Expression

-- ============================================================ visibility

/-- Whether a group tells who may see an item: one word, or `in` and a
plain path. -/
def tellsVisibility : List Token → Bool
  | [t] =>
    atWord "crate" [t] || atWord "self" [t] || atWord "super" [t]
  | t :: _ => atWord "in" [t]
  | [] => false

/-- Who may see a declaration, if it says so. -/
def visibility : Step := fun c =>
  if atWord "pub" c.rest then do
    let c ← word "pub" c
    match c.rest with
    | .group .paren content :: _ =>
      if tellsVisibility content then
        group .paren (if content.length = 1 then token
          else andThen (word "in") plainPath) c
      else some c
    | _ => some c
  else some c

-- ============================================================== generics

/-- Bounds after a colon, if there is one; there may be no bounds. -/
def boundsAfterColon (g : Grammar) : Step :=
  whenAt (atOp ":") (andThen (op ":") (whenAt atBound (g .bounds)))

/-- One parameter that a declaration is generic in: a lifetime, a
constant or a type. -/
def genericParameter (g : Grammar) : Step := fun c => do
  let c ← g .attributes c
  if atLifetime c.rest then
    let c ← lifetime c
    boundsAfterColon g c
  else if atWord "const" c.rest then
    let c ← word "const" c
    let c ← name c
    let c ← op ":" c
    let c ← g (.type true) c
    whenAt (atOp "=") (andThen (op "=") (constArgument g)) c
  else
    let c ← name c
    let c ← boundsAfterColon g c
    whenAt (atOp "=") (andThen (op "=") (g (.type true))) c

/-- The parameters that a declaration is generic in, the closing bracket
included. -/
def genericsRule (g : Grammar) : Step := fun c =>
  if atOp ">" c.rest then op ">" c
  else do
    let c ← genericParameter g c
    if atOp ">" c.rest then op ">" c
    else
      let c ← op "," c
      g .generics c

/-- The parameters that a declaration is generic in, if any. -/
def generics (g : Grammar) : Step :=
  whenAt (atOp "<") (andThen (op "<") (g .generics))

/-- Whether no further condition comes next. -/
def atConditionsEnd (ts : List Token) : Bool :=
  ts.isEmpty || atGroup .brace ts || atOp "," ts || atOp ";" ts ||
    atOnly ":" ["::"] ts || atOp "=" ts

/-- Conditions on the parameters: bounds on lifetimes and types. -/
def predicatesRule (g : Grammar) : Step := fun c =>
  if atConditionsEnd c.rest then some c
  else do
    let c ←
      if atLifetime c.rest then lifetime c
      else andThen forLifetimes (g (.type true)) c
    let c ← op ":" c
    let c ← whenAt atBound (g .bounds) c
    whenAt (atOp ",") (andThen (op ",") (g .predicates)) c

/-- Conditions on the parameters, if any. -/
def conditions (g : Grammar) : Step :=
  whenAt (atWord "where") (andThen (word "where") (g .predicates))

-- ============================================================= functions

/-- Whether tokens start with the value that a method is called on. -/
def atReceiver (ts : List Token) : Bool :=
  let ts := if atOp "&" ts then
      let ts := ts.drop 1
      if atLifetime ts then ts.drop 2 else ts
    else ts
  let ts := if atWord "mut" ts then ts.drop 1 else ts
  atWord "self" ts && !atOp "::" (ts.drop 1)

/-- The value that a method is called on. Its type may be given unless
it is borrowed. -/
def receiver (g : Grammar) : Step := fun c => do
  let borrowed := atOp "&" c.rest
  let c ← whenAt (atOp "&")
    (andThen (op "&") (whenAt atLifetime lifetime)) c
  let c ← optWord "mut" c
  let c ← word "self" c
  whenAt (fun ts => !borrowed && atOp ":" ts)
    (andThen (op ":") (g (.type true))) c

/-- A parameter of a function. -/
def parameterRule (g : Grammar) : Step := fun c => do
  let c ← g .attributes c
  if atReceiver c.rest then receiver g c
  else
    let c ← g .pattern c
    let c ← op ":" c
    g (.type true) c

/-- What may stand before the word of a function. -/
def functionQualifiers : Step := fun c => do
  let c ← optWord "const" c
  let c ← optWord "async" c
  let c ← optWord "unsafe" c
  whenAt (atWord "extern")
    (andThen (word "extern") (whenAt atLiteral literal)) c

/-- Whether tokens start with a function. -/
def atFunction (ts : List Token) : Bool :=
  match functionQualifiers ⟨[], ts, true, .other⟩ with
  | some c => atWord "fn" c.rest
  | none => false

/-- The signature of a function. -/
def signature (g : Grammar) : Step := fun c => do
  let c ← functionQualifiers c
  let c ← word "fn" c
  let c ← name c
  let c ← generics g c
  let c ← group .paren (g (.commas .parameter)) c
  let c ← returnType g true c
  conditions g c

-- ================================================================ fields

/-- A field of a struct, by name or by place. -/
def fieldOfRule (g : Grammar) (named : Bool) : Step := fun c => do
  let c ← g .attributes c
  let c ← visibility c
  let c ← if named then andThen name (op ":") c else some c
  g (.type true) c

/-- The fields in braces or in parentheses, if any. -/
def fieldsInGroup (g : Grammar) : Step := fun c =>
  if atGroup .brace c.rest then
    group .brace (g (.commas (.fieldOf true))) c
  else if atGroup .paren c.rest then
    group .paren (g (.commas (.fieldOf false))) c
  else some c

/-- A variant of an enumeration, perhaps with its number. -/
def variantRule (g : Grammar) : Step := fun c => do
  let c ← g .attributes c
  let c ← name c
  let c ← fieldsInGroup g c
  whenAt (atOp "=") (andThen (op "=") (g (.expr true))) c

end RuledList.View.Expression
