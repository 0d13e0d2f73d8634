/-
The shortest decimal that reads back. A binary64 number owns an
interval of reals, those nearer to it than to any other (its ends are
included when the mantissa is even, because halves go to the even
neighbour). Among the decimals in that interval the ones with the
fewest digits are taken, and of these the nearest.

On the grid of decimals with a given number of digits only the two
neighbours of the number itself can be nearest, so seventeen grids with
two candidates each are all there is to look at: seventeen digits
always suffice.
-/
import RuledList.Number.Binary64

namespace RuledList.Binary64

/-- A number and the ends of its interval, as numerators over one
denominator. -/
structure Interval where
  low : Nat
  value : Nat
  high : Nat
  denominator : Nat
  /-- Whether the ends themselves read back. -/
  closed : Bool

/-- The interval of a nonzero number. The gap below a power of two is
half as wide as the gap above it, except at the bottom of the range. -/
def interval (x : Binary64) : Interval :=
  let m := x.mantissa
  let below := if x.fraction = 0 && x.exponent > 1 then 1 else 2
  let (up, down) := powerOfTwo (x.scale - 2)
  { low := (4 * m - below) * up
    value := 4 * m * up
    high := (4 * m + 2) * up
    denominator := down
    closed := m % 2 == 0 }

/-- The power of ten of the leading digit of `num / den`, which must be
positive. Below one it is found by trying, three hundred and thirty
places being more than any binary64 number needs. -/
def leadingPower (num den : Nat) : Int :=
  if den ≤ num then ((Nat.toDigits 10 (num / den)).length : Int) - 1
  else
    match (List.range 330).find? fun j => den ≤ num * Nat.pow 10 (j + 1) with
    | some j => -(j + 1)
    | none => -330

/-- The decimal `digits * 10 ^ power`. -/
structure Decimal where
  digits : Nat
  power : Int
  deriving DecidableEq

/-- The nearer of the two neighbours of the number on the grid of
multiples of `10 ^ power`, if either lies in the interval. Of two
equally near ones the even one is taken. -/
def candidate? (i : Interval) (power : Int) : Option Decimal :=
  -- `c * 10 ^ power` against `n / denominator` is `c * unit` against
  -- `n * den`
  let unit := Nat.pow 10 power.toNat * i.denominator
  let den := Nat.pow 10 (-power).toNat
  let within (c : Nat) : Bool :=
    if i.closed then i.low * den ≤ c * unit && c * unit ≤ i.high * den
    else i.low * den < c * unit && c * unit < i.high * den
  let below := i.value * den / unit
  let rest := i.value * den % unit
  let nearBelow := 2 * rest < unit || (2 * rest == unit && below % 2 == 0)
  match within below, within (below + 1) with
  | true, true => some ⟨if nearBelow then below else below + 1, power⟩
  | true, false => some ⟨below, power⟩
  | false, true => some ⟨below + 1, power⟩
  | false, false => none

/-- Drop the trailing zeros of a decimal's digits into its power. -/
def Decimal.trim : (fuel : Nat) → Decimal → Decimal
  | 0, d => d
  | fuel + 1, d =>
    if d.digits % 10 = 0 ∧ d.digits ≠ 0 then
      Decimal.trim fuel ⟨d.digits / 10, d.power + 1⟩
    else d

/-- The shortest decimal that reads back as the magnitude of a nonzero
number, without trailing zeros. -/
def shortest (x : Binary64) : Decimal :=
  let i := x.interval
  let top := leadingPower i.value i.denominator
  let tries := (List.range 17).map fun (n : Nat) => top - (n : Int)
  match tries.findSome? (candidate? i) with
  | some d => d.trim 20
  | none => ⟨i.value / i.denominator, 0⟩

end RuledList.Binary64
