/-
Reading expressions off tokens. A `Cursor` stands in a run of tokens:
behind it what has been read, spaced as it was understood — an operator
joint, two operators apart even if the source glued them — and before
it what is left. A `Step` moves the cursor on, or fails.

Tokens left over at the end of a group are no failure of the step that
read the group. They are remembered (`Cursor.whole` turns false), and
whoever asked for the expression decides when to complain.
-/
import RuledList.View.Token.Literal
import RuledList.View.Token.Basic

namespace RuledList.View.Expression

/-- What was read last, as far as it bears on what may follow. -/
inductive Shape where
  /-- A range: no operator and no field may follow. -/
  | range
  /-- A comparison: no second one may follow. -/
  | comparison
  /-- A conditional, a loop, a match or a block: as a statement it ends
  with its brace. -/
  | blockLike
  /-- A macro call with braces, which ends a statement too. -/
  | braceMacro
  /-- A path: whether it is a single name without further qualification,
  and whether it has no generic arguments. -/
  | path (single plain : Bool)
  | other
  deriving DecidableEq

/-- A place in a run of tokens. -/
structure Cursor where
  /-- What has been read, last token first. -/
  seen : List Token
  /-- What is left. -/
  rest : List Token
  /-- Whether every group was read to its end. -/
  whole : Bool
  /-- What was read last. -/
  shape : Shape

/-- Move the cursor on, or fail. -/
abbrev Step := Cursor → Option Cursor

-- ========================================================== looking ahead

/-- The words that are never names. -/
def keywords : List String :=
  ["_", "abstract", "as", "async", "await", "become", "box", "break",
    "const", "continue", "crate", "do", "dyn", "else", "enum", "extern",
    "false", "final", "fn", "for", "if", "impl", "in", "let", "loop",
    "macro", "match", "mod", "move", "mut", "override", "priv", "pub",
    "ref", "return", "Self", "self", "static", "struct", "super",
    "trait", "true", "try", "type", "typeof", "unsafe", "unsized",
    "use", "virtual", "where", "while", "yield"]

/-- Whether an identifier is a name: raw, or no keyword. -/
def isName (raw : Bool) (name : String) : Bool :=
  raw || !keywords.contains name

/-- Whether tokens start with the characters of an operator, all but the
last of them joint. -/
def startsOperator : List Char → List Token → Bool
  | [], _ => true
  | [c], .punct d _ :: _ => c == d
  | c :: cs, .punct d true :: rest => c == d && startsOperator cs rest
  | _, _ => false

/-- Whether tokens start with an operator. -/
def atOp (op : String) (ts : List Token) : Bool :=
  startsOperator op.toList ts

/-- Whether tokens start with a word. -/
def atWord (word : String) : List Token → Bool
  | .ident false name :: _ => name == word
  | _ => false

/-- Whether tokens start with a name. -/
def atName : List Token → Bool
  | .ident raw name :: _ => isName raw name
  | _ => false

/-- Whether tokens start with a word that begins a path but is no
name. -/
def atPathWord (ts : List Token) : Bool :=
  atWord "super" ts || atWord "self" ts || atWord "crate" ts ||
    atWord "Self" ts

/-- Whether tokens start with a name or a keyword. -/
def atIdent : List Token → Bool
  | .ident _ _ :: _ => true
  | _ => false

/-- Whether tokens start with a literal, a truth value included. -/
def atLiteral : List Token → Bool
  | .literal _ :: _ => true
  | .ident false name :: _ => name == "true" || name == "false"
  | _ => false

/-- Whether tokens start with a literal, one with a minus sign
included. -/
def atSignedLiteral : List Token → Bool
  | .punct '-' _ :: .literal spelling :: _ =>
    spelling.toList.head?.any Char.isDigit
  | ts => atLiteral ts

/-- Whether tokens start with a lifetime. -/
def atLifetime : List Token → Bool
  | .punct '\'' true :: .ident _ _ :: _ => true
  | _ => false

/-- Whether tokens start with a group. -/
def atGroup (d : Delimiter) : List Token → Bool
  | .group e _ :: _ => d == e
  | _ => false

/-- Whether tokens start with an operator but not with a longer one. -/
def atOnly (s : String) (longer : List String) (ts : List Token) : Bool :=
  atOp s ts && !longer.any fun l => atOp l ts

/-- How many tokens the dots of a range take up. -/
def dots (ts : List Token) : Nat :=
  if atOp "..=" ts || atOp "..." ts then 3 else 2

-- ============================================================ small steps

namespace Cursor

/-- Move over tokens, which come out as `spaced`. -/
def pass (c : Cursor) (spaced : List Token) (count : Nat) : Cursor :=
  { c with seen := spaced.reverse ++ c.seen, rest := c.rest.drop count,
           shape := .other }

/-- Say what was read last. -/
def as (c : Cursor) (shape : Shape) : Cursor := { c with shape }

end Cursor

/-- Read an operator. -/
def op (s : String) : Step := fun c =>
  if atOp s c.rest then
    some (c.pass (Token.operator s.toList) s.length)
  else none

/-- Read the first token, whatever it is. -/
def token : Step := fun c =>
  match c.rest with
  | t :: _ => some (c.pass [t] 1)
  | [] => none

/-- Read a word. -/
def word (s : String) : Step := fun c =>
  if atWord s c.rest then token c else none

/-- Read a name. -/
def name : Step := fun c => if atName c.rest then token c else none

/-- Read a name or a keyword. -/
def anyIdent : Step := fun c => if atIdent c.rest then token c else none

/-- Read a literal. -/
def literal : Step := fun c => if atLiteral c.rest then token c else none

/-- Read a literal; a minus sign stands apart from its number. -/
def signedLiteral : Step := fun c =>
  match c.rest with
  | .punct '-' _ :: .literal spelling :: _ =>
    if spelling.toList.head?.any Char.isDigit then
      some (c.pass [.punct '-' false, .literal spelling] 2)
    else none
  | _ => literal c

/-- Read a lifetime. -/
def lifetime : Step := fun c =>
  if atLifetime c.rest then some (c.pass (c.rest.take 2) 2) else none

/-- The place in a tuple that a number names: digits in some base,
without a suffix, fitting a 32-bit word. -/
def placeOfLiteral? (spelling : String) : Option Nat :=
  let cs := spelling.toList.filter (· != '_')
  let (base, digits) :=
    match cs with
    | '0' :: 'x' :: rest => (16, rest)
    | '0' :: 'o' :: rest => (8, rest)
    | '0' :: 'b' :: rest => (2, rest)
    | cs => (10, cs)
  let value := digits.foldl (fun n d => do
    let n ← n
    let d ← Text.hexValue? d
    if d < base then some (n * base + d) else none) (some 0)
  match value with
  | some n => if digits.isEmpty || 4294967296 ≤ n then none else some n
  | none => none

/-- Read the name of a field or the place of a tuple's part. A place is
written in base ten. -/
def member : Step := fun c =>
  match c.rest with
  | .literal spelling :: _ =>
    (placeOfLiteral? spelling).map fun n =>
      c.pass [.literal (toString n)] 1
  | _ => name c

/-- Read a group as it stands. -/
def rawGroup : Step := fun c =>
  match c.rest with
  | .group _ _ :: _ => token c
  | _ => none

/-- Read a group, its content by a step. -/
def group (d : Delimiter) (inside : Step) : Step := fun c =>
  match c.rest with
  | .group e content :: _ =>
    if d = e then do
      let inner ← inside ⟨[], content, c.whole, .other⟩
      let c := c.pass [.group d inner.seen.reverse] 1
      some { c with whole := inner.whole && inner.rest.isEmpty }
    else none
  | _ => none

/-- One step after the other. -/
def andThen (a b : Step) : Step := fun c => (a c).bind b

/-- A step if a test on what is left succeeds, else nothing. -/
def whenAt (test : List Token → Bool) (a : Step) : Step := fun c =>
  if test c.rest then a c else some c

/-- An operator, if it comes next. -/
def optOp (s : String) : Step := whenAt (atOp s) (op s)

/-- A word, if it comes next. -/
def optWord (s : String) : Step := whenAt (atWord s) (word s)

/-- The segments of a plain path. -/
def plainSegments : (fuel : Nat) → Step
  | 0, _ => none
  | fuel + 1, c =>
    if atName c.rest || atPathWord c.rest then do
      let c ← anyIdent c
      whenAt (atOp "::") (andThen (op "::") (plainSegments fuel)) c
    else none

/-- A plain path: words and double colons, nothing else. -/
def plainPath : Step := fun c => do
  let c ← optOp "::" c
  plainSegments c.rest.length c

end RuledList.View.Expression
