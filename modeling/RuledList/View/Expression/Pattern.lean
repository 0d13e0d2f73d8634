/-
Patterns.
-/
import RuledList.View.Expression.Path

namespace RuledList.View.Expression

/-- Whether tokens start with an alternative's bar, and not with an
operator that begins with one. -/
def atBar (ts : List Token) : Bool := atOnly "|" ["||", "|="] ts

/-- A pattern, alternatives included; a bar may stand before the
first. -/
def patternsRule (g : Grammar) : Step := fun c => do
  let c ← optOp "|" c
  let c ← g .pattern c
  g .alternatives c

/-- Further alternatives of a pattern. -/
def alternativesRule (g : Grammar) : Step := fun c =>
  if atBar c.rest then do
    let c ← op "|" c
    let c ← g .pattern c
    g .alternatives c
  else some c

/-- Whether no end of a range pattern comes next. -/
def atRangeStop (ts : List Token) : Bool :=
  ts.isEmpty || atOp "|" ts || atOp "=" ts || atOnly ":" ["::"] ts ||
    atOp "," ts || atOp ";" ts || atWord "if" ts

/-- A block of constant code. -/
def constBlock (g : Grammar) : Step :=
  andThen (word "const")
    (group .brace (andThen (g .innerAttributes) (g .statements)))

/-- An end of a range pattern. -/
def rangeEnd (g : Grammar) : Step := fun c =>
  if atSignedLiteral c.rest then signedLiteral c
  else if atWord "const" c.rest then constBlock g c
  else if atPath c.rest then g (.path true) c
  else none

/-- The dots of a range; three of them are allowed in patterns
alone. -/
def rangeDots (old : Bool) : Step := fun c =>
  if atOp "..=" c.rest then op "..=" c
  else if atOp "..." c.rest then if old then op "..." c else none
  else op ".." c

/-- The rest of a range pattern from its dots on. Only a half-open range
may lack its end. -/
def rangeRest (g : Grammar) : Step := fun c =>
  if atRangeStop (c.rest.drop (dots c.rest)) then
    if dots c.rest = 2 then rangeDots true c else none
  else andThen (rangeDots true) (rangeEnd g) c

/-- One field of a struct pattern. -/
def patternField (g : Grammar) : Step := fun c => do
  let marked := atWord "box" c.rest || atWord "ref" c.rest ||
    atWord "mut" c.rest
  let c ← optWord "box" c
  let c ← optWord "ref" c
  let c ← optWord "mut" c
  if marked then name c
  else if atName c.rest && !atOp ":" (c.rest.drop 1) then name c
  else do
    let c ← member c
    let c ← op ":" c
    g .patterns c

/-- The fields of a struct pattern; two dots stand for the others. -/
def patternFieldsRule (g : Grammar) : Step := fun c =>
  if c.rest.isEmpty then some c
  else do
    let c ← g .attributes c
    if atOp ".." c.rest then op ".." c
    else
      let c ← patternField g c
      if c.rest.isEmpty then some c
      else
        let c ← op "," c
        g .patternFields c

/-- A pattern that begins with a path: a macro's, a struct's, a tuple
struct's, a range from a constant, or the constant. -/
def pathPattern (g : Grammar) : Step := fun c => do
  let c ← g (.path true) c
  let plain := match c.shape with
    | .path _ plain => plain
    | _ => false
  if atOnly "!" ["!="] c.rest && plain then andThen (op "!") rawGroup c
  else if atGroup .brace c.rest then group .brace (g .patternFields) c
  else if atGroup .paren c.rest then
    group .paren (g (.commas .patterns)) c
  else if atOp ".." c.rest then rangeRest g c
  else some c

/-- A pattern that binds a name, perhaps to a part that has a pattern of
its own. -/
def bindingPattern (g : Grammar) : Step := fun c => do
  let c ← optWord "ref" c
  let c ← optWord "mut" c
  let c ← if atWord "self" c.rest then word "self" c else name c
  whenAt (atOp "@") (andThen (op "@") (g .pattern)) c

/-- Whether tokens start with a name that begins a longer pattern. -/
def atPathPattern (ts : List Token) : Bool :=
  let next := ts.drop 1
  (atName ts && (atOp "::" next || atOp "!" next || atGroup .brace next ||
      atGroup .paren next || atOp ".." next)) ||
    (atWord "self" ts && atOp "::" next) || atOp "::" ts ||
    atOp "<" ts || atWord "Self" ts || atWord "super" ts ||
    atWord "crate" ts

/-- A pattern without alternatives. -/
def patternRule (g : Grammar) : Step := fun c => do
  let ts := c.rest
  let c ←
    if atPathPattern ts then pathPattern g c
    else if atWord "_" ts then word "_" c
    else if atWord "box" ts then andThen (word "box") (g .pattern) c
    else if atSignedLiteral ts || atOp "-" ts || atWord "const" ts then do
      let block := atWord "const" ts
      let c ← rangeEnd g c
      if block then some c else whenAt (atOp "..") (rangeRest g) c
    else if atWord "ref" ts || atWord "mut" ts || atWord "self" ts ||
        atName ts then bindingPattern g c
    else if atOp "&" ts then do
      let c ← op "&" c
      let c ← optWord "mut" c
      g .pattern c
    else if atGroup .paren ts then group .paren (g (.commas .patterns)) c
    else if atGroup .bracket ts then
      group .bracket (g (.commas .patterns)) c
    else if atOp ".." ts then
      if atRangeStop (ts.drop (dots ts)) then
        if dots ts = 2 then op ".." c else none
      else andThen (rangeDots false) (rangeEnd g) c
    else none
  some (c.as .other)

end RuledList.View.Expression
