/-
From source text to token trees. The source is read from its head:
blanks and comments are skipped, a documenting comment becomes the
attribute that it abbreviates, an opening bracket starts a group, a
closing bracket ends the innermost one, which must have been opened by
its partner, and anything else is a literal, a punctuation character or
an identifier. A source with anything else in it, or with a group that
is never closed, has no tokens.
-/
import RuledList.View.Token.Literal
import RuledList.View.Token.Spelling

namespace RuledList.View

-- ================================================================ leaves

/-- Whether a character is punctuation. -/
def isPunctChar (c : Char) : Bool :=
  "~!@#$%^&*-=+|;:,<.>/?'".toList.contains c

/-- Whether a text starts with punctuation that does not open a
comment. -/
def startsPunct (cs : List Char) : Bool :=
  !startsWith "//" cs && !startsWith "/*" cs &&
    match cs with
    | c :: _ => isPunctChar c
    | [] => false

/-- An identifier with its raw mark, if it has one. Five names have no
raw form. -/
def anyIdent? (cs : List Char) : Option (Token × List Char) :=
  if startsWith "r#" cs then
    match plainIdent? (cs.drop 2) with
    | some (name, rest) =>
      let name := String.ofList name
      if ["_", "super", "self", "Self", "crate"].contains name then none
      else some (.ident true name, rest)
    | none => none
  else (plainIdent? cs).map fun (name, rest) =>
    (.ident false (String.ofList name), rest)

/-- The beginnings that belong to quoted literals alone. -/
def literalMarks : List String :=
  ["r\"", "r#\"", "r##", "b\"", "b'", "br\"", "br#", "c\"", "cr\"", "cr#"]

/-- An identifier that does not begin like a literal. -/
def ident? (cs : List Char) : Option (Token × List Char) :=
  if literalMarks.any fun mark => startsWith mark cs then none
  else anyIdent? cs

/-- A punctuation character, joint if more punctuation follows at once.
The apostrophe begins a lifetime, so a name must follow it, and nothing
that would make the name a literal or a prefix. -/
def punct? (cs : List Char) : Option (Token × List Char) :=
  if startsPunct cs then
    match cs with
    | '\'' :: rest =>
      match anyIdent? rest with
      | some (_, '\'' :: _) => none
      | some (_, '#' :: _) =>
        if startsWith "r#" rest then some (.punct '\'' true, rest)
        else none
      | some _ => some (.punct '\'' true, rest)
      | none => none
    | c :: rest => some (.punct c (startsPunct rest), rest)
    | [] => none
  else none

/-- A token that is no group, and the text after it. -/
def leaf? (cs : List Char) : Option (Token × List Char) :=
  match literalEnd? cs with
  | some rest =>
    let spelling := cs.take (cs.length - rest.length)
    some (.literal (String.ofList spelling), rest)
  | none => (punct? cs).or (ident? cs)

/-- The tokens of a documenting comment: the attribute that it
abbreviates. -/
def docTokens (text : List Char) (inner : Bool) : List Token :=
  [.punct '#' false] ++ (if inner then [.punct '!' false] else []) ++
    [.group .bracket [.word "doc", .punct '=' false,
      textLiteral (String.ofList text)]]

-- ================================================================ groups

/-- Read tokens. `seen` are the tokens of the innermost open group, last
first, and `open_` the groups around it with theirs. -/
def lexFrom : (fuel : Nat) → (outer : List (Delimiter × List Token)) →
    (seen : List Token) → List Char → Option (List Token)
  | 0, _, _, _ => none
  | fuel + 1, outer, seen, cs =>
    let cs := skipBlanks (cs.length + 1) cs
    match docComment? cs with
    | some (text, inner, rest) =>
      if hasNoBareReturn text then
        lexFrom fuel outer ((docTokens text inner).reverse ++ seen) rest
      else none
    | none =>
      match cs with
      | [] =>
        match outer with
        | [] => some seen.reverse
        | _ :: _ => none
      | c :: rest =>
        match Delimiter.ofOpening? c, Delimiter.ofClosing? c, outer with
        | some d, _, _ => lexFrom fuel ((d, seen) :: outer) [] rest
        | none, some d, (e, before) :: outer =>
          if d = e then
            lexFrom fuel outer (.group d seen.reverse :: before) rest
          else none
        | none, some _, [] => none
        | none, none, _ =>
          match leaf? cs with
          | some (t, rest) => lexFrom fuel outer (t :: seen) rest
          | none => none

/-- The tokens of a source text, which may begin with a byte order
mark. -/
def lex? (source : String) : Option (List Token) :=
  let cs := match source.toList with
    | '\ufeff' :: rest => rest
    | cs => cs
  lexFrom (cs.length + 1) [] [] cs

end RuledList.View
