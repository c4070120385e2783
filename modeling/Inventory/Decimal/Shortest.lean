import Inventory.Decimal.Binary64

/-!
# The shortest decimal of a binary64 number

Of the decimals that are read as a given number, the one with the fewest digits; of two with as
many digits the nearer, and of two as near the one whose last digit is even. The search goes from
the coarsest decimal grid to finer ones and tests the two neighbours of the number on each, in
exact arithmetic.
-/

namespace Inventory.Decimal

/-- The decimals that are read as one number: all between `low / den` and `high / den`, the ends
too if `closed`, with the number itself at `value / den`. -/
structure Interval where
  low : Nat
  value : Nat
  high : Nat
  den : Nat
  closed : Bool

namespace Interval

/-- The interval of a number: half a step to each side, a quarter step below a power of two. -/
def ofBinary64 (x : Binary64) : Interval :=
  let m := x.significand
  let low := if m = topBit ∧ -1074 < x.exponent then 4 * m - 1 else 4 * m - 2
  let (scale, den) := descale 2 (2 - x.exponent) 1 1
  ⟨low * scale, 4 * m * scale, (4 * m + 2) * scale, den, m % 2 == 0⟩

/-- The interval divided by `10 ^ p`, so that the grid of that step becomes the whole numbers. -/
def onStep (i : Interval) (p : Int) : Interval :=
  match p with
  | .ofNat k => { i with den := i.den * Nat.pow 10 k }
  | .negSucc k =>
    { i with
      low := i.low * Nat.pow 10 (k + 1)
      value := i.value * Nat.pow 10 (k + 1)
      high := i.high * Nat.pow 10 (k + 1) }

/-- The whole number `c` lies in the interval. -/
def contains (i : Interval) (c : Nat) : Bool :=
  if i.closed then i.low ≤ c * i.den && c * i.den ≤ i.high
  else i.low < c * i.den && c * i.den < i.high

/-- The whole number in the interval that stands for its value, if one of the two neighbours of
the value lies in it: the nearer, and of two as near the even one. -/
def onGrid (i : Interval) : Option Nat :=
  let c := i.value / i.den
  let twice := 2 * (i.value % i.den)
  if i.contains c then
    if i.contains (c + 1) && (i.den < twice || (twice == i.den && c % 2 == 1)) then some (c + 1)
    else some c
  else if i.contains (c + 1) then some (c + 1)
  else none

/-- The power of ten of the first digit of the interval's value, which is positive. -/
def firstPlace (i : Interval) : Int :=
  if i.den ≤ i.value then
    ((Nat.toDigits 10 (i.value / i.den)).length : Int) - 1
  else
    let length := (Nat.toDigits 10 (i.den / i.value)).length
    if i.den ≤ i.value * Nat.pow 10 (length - 1) then -((length - 1 : Nat) : Int)
    else -(length : Int)

/-- The first hit on grids of step `10 ^ p`, `10 ^ (p - 1)`, …: digits and step. -/
def search (i : Interval) : Nat → Int → Nat × Int
  | 0, p => ((i.onStep p).value / (i.onStep p).den, p)
  | tries + 1, p =>
    match (i.onStep p).onGrid with
    | some c => (c, p)
    | none => i.search tries (p - 1)

end Interval

/-- A decimal `digits * 10 ^ exponent` without the zeros at the end of its digits. -/
def stripZeros : Nat → Nat → Int → Nat × Int
  | 0, digits, exponent => (digits, exponent)
  | fuel + 1, digits, exponent =>
    if digits ≠ 0 ∧ digits % 10 = 0 then stripZeros fuel (digits / 10) (exponent + 1)
    else (digits, exponent)

/-- The shortest decimal of the size of a number, as digits and power of ten: seventeen digits
always suffice. -/
def shortest (x : Binary64) : Nat × Int :=
  if x.significand = 0 then (0, 0)
  else
    let i := Interval.ofBinary64 x
    let (digits, exponent) := i.search 17 i.firstPlace
    stripZeros 17 digits exponent

end Inventory.Decimal
