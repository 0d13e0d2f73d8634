/-
The kinds of phrase that the grammar of expressions refers to from more
than one place. Each kind has its rule in one of the modules beside
this one; a rule is written against a `Grammar`, which reads any kind
of phrase, so that rules may refer to each other in any order. The knot
is tied in `Grammar.lean`.
-/
import RuledList.View.Expression.Cursor

namespace RuledList.View.Expression

/-- A kind of phrase. -/
inductive Goal where
  /-- An expression; `struct` tells whether a struct literal may begin
  with a bare name, which is so except before a block. -/
  | expr (struct : Bool)
  /-- An operand with its leading operators. -/
  | unary (struct : Bool)
  /-- The operators after an operand, down to a binding strength. -/
  | operators (struct : Bool) (strength : Nat)
  /-- An operand and the stronger operators after it. -/
  | rightSide (struct : Bool) (strength : Nat)
  /-- The stronger operators after an operand. -/
  | climb (struct : Bool) (strength : Nat)
  /-- Calls, fields, indices and question marks after an operand. -/
  | trailers
  /-- An expression at the head of a statement or of a match arm. -/
  | early
  /-- An operand without operators, but with what follows it. -/
  | operand (struct : Bool)
  /-- The rest of a conditional, its keyword included. -/
  | conditional
  /-- The arms of a match. -/
  | arms
  /-- The inside of a block. -/
  | statements
  /-- A pattern without alternatives. -/
  | pattern
  /-- A pattern, alternatives included. -/
  | patterns
  /-- Further alternatives of a pattern. -/
  | alternatives
  /-- The fields of a struct pattern. -/
  | patternFields
  /-- The fields of a struct literal. -/
  | fields
  /-- A type; `plus` tells whether it may be a sum of bounds. -/
  | type (plus : Bool)
  /-- A path; in an expression its generic arguments need a double
  colon. -/
  | path (inExpr : Bool)
  /-- The further segments of a path. -/
  | segments (inExpr : Bool)
  /-- The arguments between angle brackets, the closing one included. -/
  | angles
  /-- A bound of a type. -/
  | bound
  /-- Bounds joined by plus signs. -/
  | bounds
  /-- The parameters of a closure, the closing bar included. -/
  | parameters
  /-- The parameters of a function type. -/
  | functionTypes
  /-- Attributes. -/
  | attributes
  /-- The attributes of what encloses them. -/
  | innerAttributes
  /-- What a `use` brings in. -/
  | useTree
  /-- The parameters that a declaration is generic in, the closing
  bracket included. -/
  | generics
  /-- The conditions on such parameters. -/
  | predicates
  /-- A field of a struct, by name or by place. -/
  | fieldOf (named : Bool)
  /-- A variant of an enumeration. -/
  | variant
  /-- A parameter of a function. -/
  | parameter
  /-- Items, to the end. -/
  | items
  /-- The items inside a trait or its implementation, to the end. -/
  | members
  /-- Phrases of one kind with commas between them, to the end. -/
  | commas (item : Goal)
  deriving DecidableEq

/-- How phrases are read. -/
abbrev Grammar := Goal → Step

/-- Phrases of one kind with commas between them, to the end of the
group; a comma may stand after the last. -/
def commaRule (g : Grammar) (item : Goal) : Step := fun c =>
  if c.rest.isEmpty then some c
  else do
    let c ← g item c
    if c.rest.isEmpty then some c
    else
      let c ← op "," c
      g (.commas item) c

/-- The inside of an attribute: a plain path, then nothing, a group as
it stands, or an equals sign and an expression. -/
def attributeBody (g : Grammar) : Step := fun c => do
  let c ← if atWord "unsafe" c.rest then word "unsafe" c
    else plainPath c
  if atOp "=" c.rest then
    let c ← op "=" c
    g (.expr true) c
  else whenAt (fun ts => atGroup .paren ts || atGroup .bracket ts ||
    atGroup .brace ts) rawGroup c

/-- The attributes that come next. -/
def attributesRule (g : Grammar) : Step := fun c =>
  if atOp "#" c.rest then do
    let c ← op "#" c
    let c ← group .bracket (attributeBody g) c
    g .attributes c
  else some c

/-- The attributes of what encloses them, at its head. -/
def innerAttributesRule (g : Grammar) : Step := fun c =>
  if atOp "#" c.rest && atOp "!" (c.rest.drop 1) then do
    let c ← op "#" c
    let c ← op "!" c
    let c ← group .bracket (attributeBody g) c
    g .innerAttributes c
  else some c

end RuledList.View.Expression
