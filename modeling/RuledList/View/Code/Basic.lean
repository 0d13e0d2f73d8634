/-
Generated code. Only a handful of forms is ever generated, and they are
all there is to the type: literals, expressions taken over from a view,
variables, calls, lists and blocks. `Code.tokens` spells a form out.

A block declares one variable, runs some steps and ends with a result.
A variable that is made to be changed may happen never to be, so its
declaration turns off the warning about that.
-/
import RuledList.View.Token.Literal
import RuledList.View.Token.Spelling

namespace RuledList.View

/-- The type that a variable is declared with: a name, perhaps applied
to another type. -/
inductive CodeType where
  | named (path : List String)
  | applied (path : List String) (argument : CodeType)

/-- Generated code. -/
inductive Code where
  /-- A string literal as it is spelled. -/
  | literal (spelling : String)
  /-- An expression taken over from a view. -/
  | embedded (tokens : List Token)
  | variable (name : String)
  /-- A call by an absolute path. After the last argument of a `long`
  call stands a comma. -/
  | call (path : List String) (long : Bool) (arguments : List Code)
  /-- A call of a method of a variable; it is always long. -/
  | method (receiver name : String) (arguments : List Code)
  /-- A list of items. -/
  | list (items : List Code)
  /-- A block: a variable that may be changed, steps, and a result. -/
  | building (name : String) (start : Code) (steps : List Code)
      (result : Code)
  /-- A block: a variable with its type, and a result. -/
  | naming (name : String) (type : CodeType) (value result : Code)

/-- The text that an expression is, if it is nothing but a string
literal. -/
def literalText? : List Token → Option String
  | [.literal spelling] => textOfLiteral? spelling
  | _ => none

/-- An expression as code. A string literal stands for its text wherever
it is, so one that is an expression by itself is no different from one
that is generated. -/
def Code.ofExpression (e : List Token) : Code :=
  match e with
  | [.literal spelling] =>
    if isTextLiteral spelling then .literal spelling else .embedded e
  | _ => .embedded e

-- =============================================================== spelling

/-- An absolute path. -/
def pathTokens (path : List String) : List Token :=
  path.flatMap fun part => Token.operator [':', ':'] ++ [Token.word part]

/-- A type. -/
def CodeType.tokens : CodeType → List Token
  | .named path => pathTokens path
  | .applied path argument =>
    pathTokens path ++ [.punct '<' false] ++ argument.tokens ++
      [.punct '>' false]

/-- The mark on a variable that may never be changed. -/
def mayStayUnchanged : List Token :=
  [.punct '#' false, .group .bracket
    [.word "allow", .group .paren [.word "unused_mut"]]]

namespace Code

mutual

/-- The tokens of code. -/
def tokens : Code → List Token
  | .literal spelling => [.literal spelling]
  | .embedded tokens => tokens
  | .variable name => [.word name]
  | .call path long arguments =>
    pathTokens path ++ [.group .paren (items arguments ++
      if long then [.punct ',' false] else [])]
  | .method receiver name arguments =>
    [.word receiver, .punct '.' false, .word name,
      .group .paren (items arguments ++ [.punct ',' false])]
  | .list elements =>
    pathTokens ["std", "vec"] ++
      [.punct '!' false, .group .bracket (items elements)]
  | .building name start steps result =>
    [.group .brace (mayStayUnchanged ++
      [.word "let", .word "mut", .word name, .punct '=' false] ++
      tokens start ++ [.punct ';' false] ++ statements steps ++
      tokens result)]
  | .naming name type value result =>
    [.group .brace ([.word "let", .word name, .punct ':' false] ++
      type.tokens ++ [.punct '=' false] ++ tokens value ++
      [.punct ';' false] ++ tokens result)]
termination_by structural c => c

/-- Code with commas between. -/
def items : List Code → List Token
  | [] => []
  | c :: rest => tokens c ++ moreItems rest
termination_by structural cs => cs

/-- Further code, each with a comma before it. -/
def moreItems : List Code → List Token
  | [] => []
  | c :: rest => [.punct ',' false] ++ tokens c ++ moreItems rest
termination_by structural cs => cs

/-- Code with a semicolon after each. -/
def statements : List Code → List Token
  | [] => []
  | c :: rest => tokens c ++ [.punct ';' false] ++ statements rest
termination_by structural cs => cs

end

/-- The text of code. -/
def text (c : Code) : String := Token.textAll c.tokens

end Code

end RuledList.View
