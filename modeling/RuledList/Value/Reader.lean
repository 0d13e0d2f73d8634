/-
Reading values from JSON text. The reader keeps the order of object
fields as written, decides the kind of every number from its spelling
(`Number/Basic.lean`), and accepts exactly one value with nothing but
blanks around it. A name that an object repeats keeps its first place
and its last value, so every value read is tidy.

A value nests, so reading recurses; the recursion is bounded by the
length of the text, which every level shortens.
-/
import RuledList.Text.Hex
import RuledList.Value.Basic

namespace RuledList.Value.Reader

-- ============================================================== lexemes

/-- The blanks of the JSON grammar. -/
def isBlank (c : Char) : Bool :=
  c == ' ' || c == '\n' || c == '\t' || c == '\r'

/-- The text from its first character that is not a blank. -/
def skipBlanks (cs : List Char) : List Char := cs.dropWhile isBlank

/-- Four base-sixteen digits, and what follows them. -/
def unit? : List Char → Option (Nat × List Char)
  | a :: b :: c :: d :: rest => do
    let a ← Text.hexValue? a
    let b ← Text.hexValue? b
    let c ← Text.hexValue? c
    let d ← Text.hexValue? d
    some (((a * 16 + b) * 16 + c) * 16 + d, rest)
  | _ => none

/-- One escaped character, after its backslash. A character beyond the
first plane is two escapes, and half of one is refused. -/
def escape? : List Char → Option (Char × List Char)
  | '"' :: rest => some ('"', rest)
  | '\\' :: rest => some ('\\', rest)
  | '/' :: rest => some ('/', rest)
  | 'b' :: rest => some ('\x08', rest)
  | 'f' :: rest => some ('\x0c', rest)
  | 'n' :: rest => some ('\n', rest)
  | 'r' :: rest => some ('\r', rest)
  | 't' :: rest => some ('\t', rest)
  | 'u' :: rest => do
    let (n, rest) ← unit? rest
    if 0xd800 ≤ n ∧ n < 0xdc00 then
      match rest with
      | '\\' :: 'u' :: rest =>
        let (m, rest) ← unit? rest
        if 0xdc00 ≤ m ∧ m < 0xe000 then
          some (Char.ofNat (0x10000 + (n - 0xd800) * 0x400 +
            (m - 0xdc00)), rest)
        else none
      | _ => none
    else if 0xdc00 ≤ n ∧ n < 0xe000 then none
    else some (Char.ofNat n, rest)
  | _ => none

/-- The characters of a string up to its closing quote, in reverse. -/
def stringBody : (fuel : Nat) → List Char → List Char →
    Option (String × List Char)
  | 0, _, _ => none
  | fuel + 1, seen, cs =>
    match cs with
    | '"' :: rest => some (String.ofList seen.reverse, rest)
    | '\\' :: rest => do
      let (c, rest) ← escape? rest
      stringBody fuel (c :: seen) rest
    | c :: rest =>
      if c.toNat < 0x20 then none else stringBody fuel (c :: seen) rest
    | [] => none

/-- The leading digits of a text, and what follows them. -/
def digits (cs : List Char) : List Char × List Char :=
  cs.span Char.isDigit

/-- The number that a run of digits spells. -/
def digitsValue (ds : List Char) : Nat :=
  ds.foldl (fun n d => n * 10 + (d.toNat - 48)) 0

/-- The exponent part of a number, if one follows. -/
def exponent? (cs : List Char) : Option (Option Int × List Char) :=
  match cs with
  | e :: rest =>
    if e == 'e' || e == 'E' then
      let (minus, rest) := match rest with
        | '-' :: rest => (true, rest)
        | '+' :: rest => (false, rest)
        | rest => (false, rest)
      let (ds, rest) := digits rest
      if ds.isEmpty then none
      else
        let n : Int := digitsValue ds
        some (some (if minus then -n else n), rest)
    else some (none, cs)
  | [] => some (none, cs)

/-- A number: sign, digits without a leading zero, fraction,
exponent. -/
def number? (cs : List Char) : Option (Value × List Char) := do
  let (negative, cs) := match cs with
    | '-' :: rest => (true, rest)
    | cs => (false, cs)
  let (whole, cs) := digits cs
  if whole.isEmpty || (whole.length > 1 && whole.head? == some '0') then
    none
  let (fraction, cs) ← match cs with
    | '.' :: rest =>
      let (ds, rest) := digits rest
      if ds.isEmpty then none else some (some ds, rest)
    | cs => some (none, cs)
  let (power, cs) ← exponent? cs
  let number ← match fraction, power with
    | none, none => Number.ofInteger? negative (digitsValue whole)
    | _, _ =>
      let tail := fraction.getD []
      Number.ofDecimal? negative (digitsValue (whole ++ tail))
        (power.getD 0 - tail.length)
  some (.number number, cs)

/-- A word of the grammar, if the text starts with it. -/
def word? (word : List Char) (value : Value) (cs : List Char) :
    Option (Value × List Char) :=
  if word.isPrefixOf cs then some (value, cs.drop word.length) else none

-- =============================================================== values

mutual

/-- A value at the head of a text, after any blanks. -/
def value? : (fuel : Nat) → List Char → Option (Value × List Char)
  | 0, _ => none
  | fuel + 1, cs =>
    match skipBlanks cs with
    | '"' :: rest => do
      let (s, rest) ← stringBody (rest.length + 1) [] rest
      some (.string s, rest)
    | '[' :: rest => do
      match skipBlanks rest with
      | ']' :: rest => some (.array [], rest)
      | rest =>
        let (vs, rest) ← items? fuel rest
        some (.array vs, rest)
    | '\x7b' :: rest => do
      match skipBlanks rest with
      | '\x7d' :: rest => some (.object [], rest)
      | rest =>
        let (fs, rest) ← fields? fuel rest
        some (.object (OrdMap.ofList fs).entries, rest)
    | 'n' :: rest => word? "ull".toList .null rest
    | 't' :: rest => word? "rue".toList (.bool true) rest
    | 'f' :: rest => word? "alse".toList (.bool false) rest
    | cs => number? cs

/-- The items of an array, up to and including its bracket. -/
def items? : (fuel : Nat) → List Char →
    Option (List Value × List Char)
  | 0, _ => none
  | fuel + 1, cs => do
    let (v, rest) ← value? fuel cs
    match skipBlanks rest with
    | ',' :: rest =>
      let (vs, rest) ← items? fuel rest
      some (v :: vs, rest)
    | ']' :: rest => some ([v], rest)
    | _ => none

/-- The fields of an object, up to and including its brace. -/
def fields? : (fuel : Nat) → List Char →
    Option (List (String × Value) × List Char)
  | 0, _ => none
  | fuel + 1, cs =>
    match skipBlanks cs with
    | '"' :: rest => do
      let (k, rest) ← stringBody (rest.length + 1) [] rest
      match skipBlanks rest with
      | ':' :: rest =>
        let (v, rest) ← value? fuel rest
        match skipBlanks rest with
        | ',' :: rest =>
          let (fs, rest) ← fields? fuel rest
          some ((k, v) :: fs, rest)
        | '\x7d' :: rest => some ([(k, v)], rest)
        | _ => none
      | _ => none
    | _ => none

end

end RuledList.Value.Reader

namespace RuledList.Value

/-- The value that a whole JSON text spells, if it spells one. -/
def ofText? (s : String) : Option Value :=
  let cs := s.toList
  match Reader.value? (2 * cs.length + 2) cs with
  | some (v, rest) => if (Reader.skipBlanks rest).isEmpty then some v
    else none
  | none => none

end RuledList.Value
