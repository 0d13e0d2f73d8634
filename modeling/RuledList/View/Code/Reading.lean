/-
Reading generated code off tokens. Whoever runs code is handed its
tokens (`Code.tokens`) and has to find the forms in them again. Reading
goes by Rust's own rules: a path is read to its end, and the brackets
after it say what it is for; arguments and items stand between commas,
the parts of a block between semicolons.

Expressions taken over from a view stand where a conversion has its
argument, and nowhere else. They may have commas of their own, so an
argument ends at the first comma before which a whole expression
stands. What a whole expression is says the reader of expressions.
-/
import RuledList.View.Attribute
import RuledList.View.Code.Basic

namespace RuledList.View

-- ================================================================= types

/-- A type at the head of tokens, and the tokens after it. `path` is
what has been read of its path. -/
def CodeType.read? : (path : List String) → List Token →
    Option (CodeType × List Token)
  | path, .punct ':' true :: .punct ':' _ :: .ident false part :: rest =>
    read? (path ++ [part]) rest
  | first :: more, .punct '<' _ :: rest =>
    match read? [] rest with
    | some (argument, .punct '>' _ :: rest) =>
      some (.applied (first :: more) argument, rest)
    | _ => none
  | first :: more, rest => some (.named (first :: more), rest)
  | [], _ => none
termination_by structural _ ts => ts

namespace Code

-- ============================================================= arguments

/-- Whether a function turns an expression of a view into a property
value or a node. -/
def isConversion (path : List String) : Bool :=
  path == ["rule_render", "Value", "from"] ||
    path == ["rule_render", "node", "RenderNode", "from"]

/-- What an argument of a conversion may be: a string literal, or an
expression that takes up all of the tokens. -/
def expression? (reader : ExprReader) (ts : List Token) : Option Code :=
  if (literalText? ts).isSome then some (ofExpression ts)
  else
    match reader ts with
    | some (e, true) => some (ofExpression e)
    | _ => none

/-- The expressions between commas, and whether a comma stands after the
last. `seen` is what has been read of an expression. -/
def expressions? (reader : ExprReader) : (seen : List Token) →
    List Token → Option (List Code × Bool)
  | [], [] => some ([], false)
  | seen, [] => (expression? reader seen).map fun c => ([c], false)
  | seen, .punct ',' joint :: rest =>
    match expression? reader seen with
    | some c =>
      if rest.isEmpty then some ([c], true)
      else
        (expressions? reader [] rest).map fun (more, long) =>
          (c :: more, long)
    | none => expressions? reader (seen ++ [.punct ',' joint]) rest
  | seen, t :: rest => expressions? reader (seen ++ [t]) rest
termination_by structural _ ts => ts

-- ================================================================= forms

/-- A block that declares a variable to be changed, by what stands
between its semicolons: the start, the steps and the result. -/
def building? (name : String) : List Code × Bool → Option Code
  | (start :: parts, false) =>
    parts.getLast?.map (.building name start parts.dropLast)
  | _ => none

/-- A block that declares a variable with its type, by what stands
between its semicolons: the value and the result. -/
def naming? (name : String) (type : List Token) :
    List Code × Bool → Option Code
  | ([value, result], false) =>
    match CodeType.read? [] type with
    | some (type, []) => some (.naming name type value result)
    | _ => none
  | _ => none

/-- Whether an attribute is the mark on a variable that may never be
changed. -/
def isMayStayUnchanged : List Token → Bool
  | [.ident false name, .group .paren [.ident false argument]] =>
    name == "allow" && argument == "unused_mut"
  | _ => false

mutual

/-- Code between separators, and whether a separator stands after the
last. `path` is what has been read of a path. -/
def codes? (reader : ExprReader) (sep : Char) : (path : List String) →
    List Token → Option (List Code × Bool)
  | [], [] => some ([], false)
  | [], .literal spelling :: rest =>
    codesAfter? reader sep (.literal spelling) rest
  | [], .group .brace content :: rest => do
    let block ← block? reader (.group .brace content)
    codesAfter? reader sep block rest
  | [], .ident false receiver :: .punct '.' _ :: .ident false name ::
      .group .paren content :: rest => do
    let (arguments, _) ← within? reader (.group .paren content)
    codesAfter? reader sep (.method receiver name arguments) rest
  | [], .ident false name :: rest =>
    codesAfter? reader sep (.variable name) rest
  | path, .punct ':' true :: .punct ':' _ :: .ident false part :: rest =>
    codes? reader sep (path ++ [part]) rest
  | first :: more, .group .paren content :: rest => do
    let path := first :: more
    let (arguments, long) ←
      if isConversion path then expressions? reader [] content
      else within? reader (.group .paren content)
    codesAfter? reader sep (.call path long arguments) rest
  | ["std", "vec"], .punct '!' _ :: .group .bracket content :: rest => do
    let (elements, _) ← within? reader (.group .bracket content)
    codesAfter? reader sep (.list elements) rest
  | _, _ => none
termination_by structural _ ts => ts

/-- Code between separators of which the first has just been read. -/
def codesAfter? (reader : ExprReader) (sep : Char) (first : Code) :
    List Token → Option (List Code × Bool)
  | [] => some ([first], false)
  | .punct c _ :: rest =>
    if c = sep then
      if rest.isEmpty then some ([first], true)
      else
        (codes? reader sep [] rest).map fun (more, long) =>
          (first :: more, long)
    else none
  | _ => none
termination_by structural ts => ts

/-- The code between commas in a group. -/
def within? (reader : ExprReader) : Token →
    Option (List Code × Bool)
  | .group _ content => codes? reader ',' [] content
  | _ => none
termination_by structural t => t

/-- A block. -/
def block? (reader : ExprReader) : Token → Option Code
  | .group .brace (.punct '#' _ :: .group .bracket mark ::
      .ident false keyword :: .ident false change :: .ident false name ::
      .punct '=' _ :: rest) =>
    if isMayStayUnchanged mark && keyword == "let" && change == "mut" then
      (codes? reader ';' [] rest).bind (building? name)
    else none
  | .group .brace (.ident false keyword :: .ident false name ::
      .punct ':' _ :: rest) =>
    if keyword == "let" then declared? reader name [] rest else none
  | _ => none
termination_by structural t => t

/-- The rest of a block that declares a variable with its type. `type`
is what has been read of the type. -/
def declared? (reader : ExprReader) (name : String) :
    (type : List Token) → List Token → Option Code
  | _, [] => none
  | type, .punct '=' _ :: rest =>
    (codes? reader ';' [] rest).bind (naming? name type)
  | type, t :: rest => declared? reader name (type ++ [t]) rest
termination_by structural _ ts => ts

end

/-- The code that tokens spell. -/
def read? (reader : ExprReader) (ts : List Token) : Option Code :=
  match codes? reader ',' [] ts with
  | some ([c], false) => some c
  | _ => none

end Code

end RuledList.View
