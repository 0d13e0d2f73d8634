/-
Numbers as a property value holds them: an exact integer or a finite
binary64 number. The two kinds never compare equal, whatever they
measure: `1` and `1.0` are different values, and so are `0` and `-0.0`.

An integer keeps all its digits. Anything else that a text can spell —
a fraction, an exponent, an integer outside the range of 64-bit words,
the integer `-0` — is the nearest binary64 number.
-/
import RuledList.Number.Shortest

namespace RuledList

/-- A number value. -/
inductive Number where
  | int (n : Int)
  | float (x : Binary64)
  deriving DecidableEq

namespace Number

-- ============================================================= equality

/-- Numeric equality within a kind; different kinds differ. -/
def same : Number → Number → Bool
  | .int m, .int n => m == n
  | .float x, .float y => x.same y
  | _, _ => false

-- ============================================================= integers

/-- Whether an integer literal keeps its exact value: it fits a signed
or an unsigned 64-bit word, so it is at least -2^63 and below 2^64. -/
def IsWord (n : Int) : Prop :=
  -9223372036854775808 ≤ n ∧ n < 18446744073709551616

instance (n : Int) : Decidable (IsWord n) :=
  inferInstanceAs (Decidable (_ ∧ _))

/-- Whether an integer fits a signed 64-bit word: it is at least -2^63
and below 2^63. -/
def IsSigned (n : Int) : Prop :=
  -9223372036854775808 ≤ n ∧ n < 9223372036854775808

instance (n : Int) : Decidable (IsSigned n) :=
  inferInstanceAs (Decidable (_ ∧ _))

/-- The value as a signed 64-bit word, when it is an integer that fits
one. A binary64 number never does, whole or not. -/
def toInt64? : Number → Option Int
  | .int n => if IsSigned n then some n else none
  | .float _ => none

/-- Reduce a sum to the signed 64-bit word it wraps to: the one that
differs from it by a multiple of 2^64. -/
def wrap64 (n : Int) : Int := n.bmod 18446744073709551616

-- ============================================================ the text

/-- The digits of a natural number in base ten. -/
def decimalDigits (n : Nat) : String := String.ofList (Nat.toDigits 10 n)

/-- The text of a magnitude: positional from 1e-5 up to but excluding
1e16, always with a point; else one digit, a point if more follow, and
a signed exponent. -/
def magnitudeText (d : Binary64.Decimal) : String :=
  let ds := Nat.toDigits 10 d.digits
  let len : Int := ds.length
  let lead := d.power + len - 1
  if -5 ≤ lead ∧ lead < 16 then
    if 0 ≤ d.power then
      String.ofList (ds ++ List.replicate d.power.toNat '0') ++ ".0"
    else if 0 ≤ lead then
      let whole := (lead + 1).toNat
      String.ofList (ds.take whole) ++ "." ++
        String.ofList (ds.drop whole)
    else
      "0." ++ String.ofList
        (List.replicate (-lead - 1).toNat '0' ++ ds)
  else
    let tail := ds.drop 1
    String.ofList (ds.take 1) ++
      (if tail.isEmpty then "" else "." ++ String.ofList tail) ++ "e" ++
      (if lead < 0 then "-" else "+") ++ decimalDigits lead.natAbs

/-- The text of a binary64 number: the fewest digits that read back,
never without a point or an exponent. -/
def floatText (x : Binary64) : String :=
  (if x.negative then "-" else "") ++
    if x.isZero then "0.0" else magnitudeText x.shortest

/-- The text of an integer. -/
def intText (n : Int) : String :=
  (if n < 0 then "-" else "") ++ decimalDigits n.natAbs

/-- The text of a number, as it stands in a JSON text. -/
def text : Number → String
  | .int n => intText n
  | .float x => floatText x

-- ============================================================== reading

/-- The number that an integer literal stands for: itself when it fits a
word, except that `-0` is the negative zero; else the nearest binary64
number. -/
def ofInteger? (negative : Bool) (digits : Nat) : Option Number :=
  let n : Int := if negative then -digits else digits
  if IsWord n ∧ ¬(negative ∧ digits = 0) then some (.int n)
  else (Binary64.ofDecimal? negative digits 0).map .float

/-- The number that a literal with a fraction or an exponent stands
for. -/
def ofDecimal? (negative : Bool) (digits : Nat) (power : Int) :
    Option Number :=
  (Binary64.ofDecimal? negative digits power).map .float

end Number

end RuledList
