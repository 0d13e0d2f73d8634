/-
Finite binary64 numbers, held exactly. A number is a sign and a *rank*:
the place of its magnitude among all finite magnitudes in increasing
order, zero first. The rank is the pair of exponent and fraction read
as one number, so neighbours differ by one, overflow is a bound on the
rank, and infinities and NaNs cannot be written down at all.

Everything here is arithmetic on natural numbers: decoding a rank to
`mantissa * 2 ^ scale`, and rounding a positive quotient to the nearest
rank, an exact half going to the even one.
-/

namespace RuledList

/-- The number of fractions under one exponent: 2^52. -/
def Binary64.fractions : Nat := 4503599627370496

/-- The number of finite magnitudes: 2047 exponents with all their
fractions. -/
def Binary64.ranks : Nat := 2047 * fractions

/-- A finite binary64 number. The two zeros differ in their sign. -/
structure Binary64 where
  /-- Whether the number carries a minus sign. -/
  negative : Bool
  /-- The place of the magnitude among all finite ones. -/
  rank : Fin Binary64.ranks
  deriving DecidableEq

namespace Binary64

-- ============================================================= decoding

/-- The exponent field: zero for the subnormal magnitudes. -/
def exponent (x : Binary64) : Nat := x.rank.val / fractions

/-- The fraction field. -/
def fraction (x : Binary64) : Nat := x.rank.val % fractions

/-- The whole mantissa, the leading bit of a normal number included. -/
def mantissa (x : Binary64) : Nat :=
  if x.exponent = 0 then x.fraction else fractions + x.fraction

/-- The power of two that the mantissa counts. -/
def scale (x : Binary64) : Int := max x.exponent 1 - 1075

/-- Whether the number is one of the two zeros. -/
def isZero (x : Binary64) : Bool := x.rank.val == 0

/-- Numeric equality: the two zeros are one number, and otherwise equal
numbers have equal signs and ranks. -/
def same (x y : Binary64) : Bool := x == y || (x.isZero && y.isZero)

-- ============================================================= rounding

/-- The nearest whole number to `num / den`, an exact half going to the
even one. -/
def roundHalfEven (num den : Nat) : Nat :=
  let q := num / den
  let r := num % den
  if 2 * r < den then q
  else if den < 2 * r then q + 1
  else q + q % 2

/-- The two factors that scale a quotient by `2 ^ e`: one of them is
always one. -/
def powerOfTwo (e : Int) : Nat × Nat :=
  (Nat.pow 2 e.toNat, Nat.pow 2 (-e).toNat)

/-- The rank nearest to the positive quotient `num / den`. The scale is
chosen so that the rounded mantissa has 53 bits, or fewer at the bottom
of the range; a mantissa that rounds up to 2^53 carries into the
exponent by itself, because a rank is the two fields read as one. -/
def nearestRank (num den : Nat) : Nat :=
  let guess : Int := (num.log2 : Int) - den.log2 - 52
  let (up, down) := powerOfTwo (-guess)
  let fits := fractions * (den * down) ≤ num * up
  let scale : Int := max (if fits then guess else guess - 1) (-1074)
  let (up, down) := powerOfTwo (-scale)
  let mantissa := roundHalfEven (num * up) (den * down)
  (scale + 1074).toNat * fractions + mantissa

/-- The number nearest to `num / den` with the given sign, or nothing
when it is too large to be finite. -/
def ofQuotient? (negative : Bool) (num den : Nat) : Option Binary64 :=
  let rank := if num = 0 then 0 else nearestRank num den
  if h : rank < ranks then some ⟨negative, rank, h⟩ else none

/-- The number nearest to `digits * 10 ^ power`. -/
def ofDecimal? (negative : Bool) (digits : Nat) (power : Int) :
    Option Binary64 :=
  ofQuotient? negative (digits * Nat.pow 10 power.toNat)
    (Nat.pow 10 (-power).toNat)

end Binary64

end RuledList
