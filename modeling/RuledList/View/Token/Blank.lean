/-
What stands between tokens: blanks and comments. A line comment runs to
the end of its line; block comments nest. Comments that document what
follows them (three slashes, a slash and two stars, or an exclamation
mark after the opening) are tokens of their own and not skipped here.
-/

namespace RuledList.View

/-- The blanks of the token grammar: the white space of Unicode with the
left-to-right and right-to-left marks. -/
def isBlank (c : Char) : Bool :=
  let n := c.toNat
  n == 0x20 || (0x09 ≤ n && n ≤ 0x0d) || n == 0x85 || n == 0xa0 ||
    n == 0x1680 || (0x2000 ≤ n && n ≤ 0x200a) || n == 0x200e ||
    n == 0x200f || n == 0x2028 || n == 0x2029 || n == 0x202f ||
    n == 0x205f || n == 0x3000

/-- Whether a text starts with given characters. -/
def startsWith (start : String) (cs : List Char) : Bool :=
  start.toList.isPrefixOf cs

/-- The characters of a line, and the text from its line break on. -/
def line : List Char → List Char × List Char
  | [] => ([], [])
  | '\n' :: rest => ([], '\n' :: rest)
  | '\r' :: '\n' :: rest => ([], '\n' :: rest)
  | c :: rest =>
    let (seen, rest) := line rest
    (c :: seen, rest)

/-- The inside of a block comment that has been opened `depth` times, up
to the end that closes them all, and the text after it. -/
def blockComment? : (depth : Nat) → List Char →
    Option (List Char × List Char)
  | depth, '/' :: '*' :: rest =>
    (blockComment? (depth + 1) rest).map fun (seen, rest) =>
      ('/' :: '*' :: seen, rest)
  | depth, '*' :: '/' :: rest =>
    if depth ≤ 1 then some ([], rest)
    else (blockComment? (depth - 1) rest).map fun (seen, rest) =>
      ('*' :: '/' :: seen, rest)
  | depth, c :: rest =>
    (blockComment? depth rest).map fun (seen, rest) => (c :: seen, rest)
  | _, [] => none

/-- The text after its leading blanks and comments. A block comment that
is never closed stays. -/
def skipBlanks : (fuel : Nat) → List Char → List Char
  | 0, cs => cs
  | fuel + 1, cs =>
    if startsWith "//" cs && !startsWith "//!" cs &&
        (!startsWith "///" cs || startsWith "////" cs) then
      skipBlanks fuel (line cs).2
    else if startsWith "/**/" cs then skipBlanks fuel (cs.drop 4)
    else if startsWith "/*" cs && !startsWith "/*!" cs &&
        (!startsWith "/**" cs || startsWith "/***" cs) then
      match blockComment? 1 (cs.drop 2) with
      | some (_, rest) => skipBlanks fuel rest
      | none => cs
    else
      match cs with
      | c :: rest => if isBlank c then skipBlanks fuel rest else cs
      | [] => []

/-- The text of a documenting comment, whether it documents what it
stands in, and the text after it. -/
def docComment? (cs : List Char) :
    Option (List Char × Bool × List Char) :=
  if startsWith "//!" cs then
    let (text, rest) := line (cs.drop 3)
    some (text, true, rest)
  else if startsWith "/*!" cs then
    (blockComment? 1 (cs.drop 2)).map fun (text, rest) =>
      (text.drop 1, true, rest)
  else if startsWith "///" cs && !startsWith "////" cs then
    let (text, rest) := line (cs.drop 3)
    some (text, false, rest)
  else if startsWith "/**" cs && !startsWith "/***" cs then
    (blockComment? 1 (cs.drop 2)).map fun (text, rest) =>
      (text.drop 1, false, rest)
  else none

/-- Whether every carriage return of a text is followed by a line
feed. -/
def hasNoBareReturn : List Char → Bool
  | [] => true
  | '\r' :: '\n' :: rest => hasNoBareReturn rest
  | '\r' :: _ => false
  | _ :: rest => hasNoBareReturn rest

end RuledList.View
