/-
Literals: strings, byte strings and C strings, plain and raw,
characters, bytes and numbers. A reader takes the literal off the head
of a text and gives back what follows; for strings it also gives the
text that the literal stands for, so that a literal's value is read by
the very function that recognised it.

Three flavours of quoted literal differ in what may be escaped and in
which characters may occur (`Flavour`); everything else about quoting
is the same for all of them.
-/
import RuledList.Text.Hex
import RuledList.View.Token.Blank
import RuledList.View.Token.Letter

namespace RuledList.View

-- ========================================================= identifiers

/-- An identifier without a raw mark, and the text after it. -/
def plainIdent? : List Char → Option (List Char × List Char)
  | [] => none
  | c :: rest =>
    if isIdentStart c then
      some (c :: rest.takeWhile isIdentContinue,
        rest.dropWhile isIdentContinue)
    else none

/-- The text after the suffix of a literal, which may be missing. -/
def dropSuffix (cs : List Char) : List Char :=
  match plainIdent? cs with
  | some (_, rest) => rest
  | none => cs

-- ============================================================== escapes

/-- What the escapes of a quoted literal may spell. -/
structure Flavour where
  /-- The largest number that two base-sixteen digits may spell. -/
  hexLimit : Nat
  /-- Whether characters may be given by their code points. -/
  unicode : Bool
  /-- Whether the character U+0000 may occur. -/
  nul : Bool
  /-- Whether characters from U+0080 up may occur. -/
  wide : Bool

namespace Flavour

/-- Text: strings and characters. -/
def text : Flavour := ⟨0x7f, true, true, true⟩

/-- Bytes. -/
def bytes : Flavour := ⟨0xff, false, true, false⟩

/-- Strings that end with U+0000 and so cannot hold it. -/
def terminated : Flavour := ⟨0xff, true, false, true⟩

/-- Whether a character may occur. -/
def allows (f : Flavour) (c : Char) : Bool :=
  (f.nul || c != '\x00') && (f.wide || c.toNat < 0x80)

end Flavour

/-- The inside of a code point escape, after its opening brace: one to
six digits, among which underscores may stand after the first. -/
def codePoint? : (digits : Nat) → (value : Nat) → List Char →
    Option (Char × List Char)
  | _, _, [] => none
  | digits, value, c :: rest =>
    if c == '_' && 0 < digits then codePoint? digits value rest
    else if c == '\x7d' && 0 < digits then
      if value < 0xd800 ∨ (0xdfff < value ∧ value < 0x110000) then
        some (Char.ofNat value, rest)
      else none
    else
      match Text.hexValue? c with
      | some d =>
        if digits < 6 then codePoint? (digits + 1) (value * 16 + d) rest
        else none
      | none => none

/-- The character that an escape stands for, after its backslash. -/
def escape? (f : Flavour) : List Char → Option (Char × List Char)
  | 'n' :: rest => some ('\n', rest)
  | 'r' :: rest => some ('\r', rest)
  | 't' :: rest => some ('\t', rest)
  | '\\' :: rest => some ('\\', rest)
  | '\'' :: rest => some ('\'', rest)
  | '"' :: rest => some ('"', rest)
  | '0' :: rest => if f.nul then some ('\x00', rest) else none
  | 'x' :: a :: b :: rest => do
    let n := (← Text.hexValue? a) * 16 + (← Text.hexValue? b)
    if n ≤ f.hexLimit ∧ (f.nul ∨ n ≠ 0) then some (Char.ofNat n, rest)
    else none
  | 'u' :: '\x7b' :: rest => do
    let (c, rest) ← codePoint? 0 0 rest
    if f.unicode && (f.nul || c != '\x00') then some (c, rest) else none
  | _ => none

/-- Whether a character is passed over after a backslash at the end of a
line. -/
def isContinuation (c : Char) : Bool :=
  c == ' ' || c == '\t' || c == '\n' || c == '\r'

/-- The text after its leading blanks, if there is text after them and
no carriage return among them stands alone. -/
def blanksEnd? (cs : List Char) : Option (List Char) :=
  if hasNoBareReturn (cs.takeWhile isContinuation) then
    match cs.dropWhile isContinuation with
    | [] => none
    | rest => some rest
  else none

/-- The text after a backslash at the end of a line, the backslash and
the blanks of the lines that follow passed over. Every carriage return
among them must belong to a line break. -/
def lineEnd? : List Char → Option (List Char)
  | '\n' :: rest => blanksEnd? rest
  | '\r' :: rest => blanksEnd? ('\r' :: rest)
  | _ => none

-- ======================================================= quoted literals

/-- The text of a quoted literal up to its closing quote, and what
follows the quote. A line break may be spelled with a carriage return
before it and always stands for a line feed; a backslash before one
passes over it and over the blanks after it. -/
def quotedBody? (f : Flavour) : (fuel : Nat) → List Char →
    Option (List Char × List Char)
  | 0, _ => none
  | fuel + 1, cs =>
    match cs with
    | [] => none
    | '"' :: rest => some ([], rest)
    | '\r' :: '\n' :: rest =>
      (quotedBody? f fuel rest).map fun (v, rest) => ('\n' :: v, rest)
    | '\r' :: _ => none
    | '\\' :: rest =>
      match lineEnd? rest with
      | some rest => quotedBody? f fuel rest
      | none =>
        match escape? f rest with
        | some (c, rest) =>
          (quotedBody? f fuel rest).map fun (v, rest) => (c :: v, rest)
        | none => none
    | c :: rest =>
      if f.allows c then
        (quotedBody? f fuel rest).map fun (v, rest) => (c :: v, rest)
      else none

/-- The text of a raw literal up to its closing quote with as many
hashes as opened it, and what follows them. -/
def rawBody? (f : Flavour) (hashes : List Char) : List Char →
    Option (List Char × List Char)
  | [] => none
  | '\r' :: '\n' :: rest =>
    (rawBody? f hashes rest).map fun (v, rest) =>
      ('\r' :: '\n' :: v, rest)
  | c :: rest =>
    if c == '"' && hashes.isPrefixOf rest then
      some ([], rest.drop hashes.length)
    else if c != '\r' && f.allows c then
      (rawBody? f hashes rest).map fun (v, rest) => (c :: v, rest)
    else none

/-- A raw literal after its mark: hashes, at most 255 of them, and a
quoted text without escapes. -/
def rawLiteral? (f : Flavour) (cs : List Char) :
    Option (List Char × List Char) :=
  let hashes := cs.takeWhile (· == '#')
  match cs.dropWhile (· == '#') with
  | '"' :: rest =>
    if hashes.length ≤ 255 then rawBody? f hashes rest else none
  | _ => none

/-- A string literal of a flavour after the letter that marks the
flavour: quoted, or raw. -/
def stringOf? (f : Flavour) : List Char → Option (List Char × List Char)
  | '"' :: rest => quotedBody? f (rest.length + 1) rest
  | 'r' :: rest => rawLiteral? f rest
  | _ => none

/-- A string literal without its suffix: its value, and what
follows. -/
def textLiteral? (cs : List Char) : Option (List Char × List Char) :=
  stringOf? .text cs

/-- The inside of a character or byte literal after its opening quote:
one character, perhaps escaped, and the closing quote. -/
def oneChar? (f : Flavour) : List Char → Option (List Char)
  | '\\' :: rest =>
    match escape? f rest with
    | some (_, '\'' :: rest) => some rest
    | _ => none
  | c :: '\'' :: rest => if f.allows c then some rest else none
  | _ => none

-- =============================================================== numbers

/-- The text must not go on like an identifier. -/
def wordBreak? (cs : List Char) : Option (List Char) :=
  match cs with
  | c :: _ => if isIdentContinue c then none else some cs
  | [] => some cs

/-- The text after a number's suffix, if it has one, and the end of the
number. -/
def numberEnd? (cs : List Char) : Option (List Char) :=
  wordBreak? (dropSuffix cs)

/-- Whether a character may stand among the digits of a number. -/
def isDigitOrLow (c : Char) : Bool := c.isDigit || c == '_'

/-- The text after an exponent, its letter included, if it has a
digit. -/
def exponentEnd? (cs : List Char) : Option (List Char) :=
  match cs with
  | e :: rest =>
    if e == 'e' || e == 'E' then
      let low := rest.dropWhile (· == '_')
      let signed := match low with
        | s :: more => if s == '+' || s == '-' then more else low
        | [] => low
      let digits := signed.takeWhile isDigitOrLow
      if digits.any Char.isDigit then
        some (signed.dropWhile isDigitOrLow)
      else none
    else none
  | [] => none

/-- The text after a number with a point or an exponent. A point must
not be followed by another point or by a name, so that ranges, fields
and methods keep theirs. -/
def floatEnd? (cs : List Char) : Option (List Char) :=
  match cs with
  | c :: _ =>
    if !c.isDigit then none
    else
      match cs.dropWhile isDigitOrLow with
      | '.' :: rest =>
        match rest with
        | d :: _ =>
          if d == '.' || isIdentStart d then none
          else
            let rest := rest.dropWhile isDigitOrLow
            numberEnd? ((exponentEnd? rest).getD rest)
        | [] => some []
      | rest => (exponentEnd? rest).bind numberEnd?
  | [] => none

/-- The value of a digit in the bases up to sixteen. -/
def digitsEnd? (base : Nat) : (empty : Bool) → List Char →
    Option (List Char)
  | empty, [] => if empty then none else some []
  | empty, c :: rest =>
    if c == '_' then
      if empty && base == 10 then none else digitsEnd? base empty rest
    else
      match Text.hexValue? c with
      | some d =>
        if d < base then digitsEnd? base false rest
        else if d < 10 then none
        else if empty then none
        else some (c :: rest)
      | none => if empty then none else some (c :: rest)

/-- The text after a whole number in base ten, sixteen, eight or two,
with its suffix. -/
def wholeEnd? (cs : List Char) : Option (List Char) :=
  let digits :=
    if startsWith "0x" cs then digitsEnd? 16 true (cs.drop 2)
    else if startsWith "0o" cs then digitsEnd? 8 true (cs.drop 2)
    else if startsWith "0b" cs then digitsEnd? 2 true (cs.drop 2)
    else digitsEnd? 10 true cs
  digits.bind numberEnd?

-- ============================================================== literals

/-- The text after the literal at the head of a text, if there is
one. -/
def literalEnd? (cs : List Char) : Option (List Char) :=
  let quoted (f : Flavour) (cs : List Char) : Option (List Char) :=
    (stringOf? f cs).map fun (_, rest) => dropSuffix rest
  let single (f : Flavour) (cs : List Char) : Option (List Char) :=
    (oneChar? f cs).map dropSuffix
  match cs with
  | 'b' :: '\'' :: rest => single .bytes rest
  | 'b' :: rest => quoted .bytes rest
  | 'c' :: rest => quoted .terminated rest
  | '\'' :: rest => single .text rest
  | c :: _ =>
    if c.isDigit then (floatEnd? cs).or (wholeEnd? cs)
    else quoted .text cs
  | [] => none

/-- The text that a string literal stands for; no other literal stands
for a text. -/
def textOfLiteral? (spelling : String) : Option String :=
  (textLiteral? spelling.toList).map fun (value, _) =>
    String.ofList value

/-- Whether a literal is a string literal. -/
def isTextLiteral (spelling : String) : Bool :=
  (textOfLiteral? spelling).isSome

end RuledList.View
