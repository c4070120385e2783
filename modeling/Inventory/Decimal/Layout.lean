import Inventory.Decimal.Shortest

/-!
# Decimals on paper

Where a decimal is written plainly and where with a power of ten. The layout is a value, so that
each format of numbers states its own.
-/

namespace Inventory.Decimal

/-- A layout of decimals: those with their first digit from place `plainFrom` to place `plainTo`
are written plainly, all others with a power of ten. -/
structure Layout where
  plainFrom : Int
  plainTo : Int
  /-- Put before a power of ten that is not negative. -/
  plus : List Char
  /-- Put after a whole number that is written plainly. -/
  wholeEnd : List Char

namespace Layout

/-- The decimal `digits * 10 ^ exponent` in plain form, its first digit at `place`. -/
def plain (layout : Layout) (digits : List Char) (exponent place : Int) : List Char :=
  if 0 ≤ exponent then digits ++ List.replicate exponent.toNat '0' ++ layout.wholeEnd
  else if 0 ≤ place then
    digits.take (place.toNat + 1) ++ '.' :: digits.drop (place.toNat + 1)
  else ['0', '.'] ++ List.replicate (-place - 1).toNat '0' ++ digits

/-- The decimal with a power of ten, its first digit at `place`. -/
def scientific (layout : Layout) (digits : List Char) (place : Int) : List Char :=
  let fraction := digits.drop 1
  digits.take 1 ++ (if fraction.isEmpty then [] else '.' :: fraction) ++ 'e'
    :: ((if 0 ≤ place then layout.plus else ['-']) ++ Nat.toDigits 10 place.natAbs)

/-- The size of a number. -/
def magnitude (layout : Layout) (x : Binary64) : List Char :=
  if x.isZero then '0' :: layout.wholeEnd
  else
    let (n, exponent) := shortest x
    let digits := Nat.toDigits 10 n
    let place := exponent + digits.length - 1
    if layout.plainFrom ≤ place ∧ place ≤ layout.plainTo then layout.plain digits exponent place
    else layout.scientific digits place

/-- The number with its sign, which zero keeps. -/
def render (layout : Layout) (x : Binary64) : List Char :=
  if x.negative then '-' :: layout.magnitude x else layout.magnitude x

end Layout

end Inventory.Decimal
