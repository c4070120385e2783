/-!
# Binary floating point of 64 bits

A finite binary64 number is a sign, a significand below 2^53 and an exponent of two. A decimal
is rounded to the nearest such number, a tie to the even significand, in exact arithmetic, however
many digits it has. Readers in common use are less exact: scaling the digits by a power of ten in
floating point, they take some decimals for a neighbour of the nearest number, and find some too
large that are still rounded to the largest number.
-/

namespace Inventory.Decimal

/-- The highest of the 53 bits of a significand. -/
def topBit : Nat := 4503599627370496

/-- Significand and exponent of a finite binary64 number in its one normal form: the significand
is as large as it can be unless the exponent is the least. -/
def Canonical (significand : Nat) (exponent : Int) : Prop :=
  significand < 2 * topBit ∧ -1074 ≤ exponent ∧ exponent ≤ 971 ∧
    (topBit ≤ significand ∨ exponent = -1074)

instance (m : Nat) (e : Int) : Decidable (Canonical m e) :=
  inferInstanceAs (Decidable (_ ∧ _))

/-- A finite binary64 number: `significand * 2 ^ exponent` with a sign, which zero has too. -/
structure Binary64 where
  negative : Bool
  significand : Nat
  exponent : Int
  canonical : Canonical significand exponent
  deriving DecidableEq

namespace Binary64

/-- Zero with the given sign. -/
def zero (negative : Bool) : Binary64 :=
  ⟨negative, 0, -1074, by decide⟩

/-- The number is zero, of either sign. -/
def isZero (x : Binary64) : Bool := x.significand == 0

/-- Equality of the numbers meant: the two zeros are equal. -/
def same (x y : Binary64) : Bool :=
  x == y || (x.isZero && y.isZero)

end Binary64

/-- The quotient rounded to the nearest whole number, a tie to the even one. -/
def roundDiv (num den : Nat) : Nat :=
  let q := num / den
  let r := num % den
  if 2 * r < den then q
  else if den < 2 * r then q + 1
  else if q % 2 = 0 then q
  else q + 1

/-- Numerator and denominator of a quotient divided by `base ^ e`. -/
def descale (base : Nat) (e : Int) (num den : Nat) : Nat × Nat :=
  match e with
  | .ofNat k => (num, den * Nat.pow base k)
  | .negSucc k => (num * Nat.pow base (k + 1), den)

/-- The exponent at which a positive quotient has a significand of 53 bits, or the least one. -/
def exponentFor (num den : Nat) : Int :=
  let e : Int := (num.log2 : Int) - (den.log2 : Int) - 53
  let (n, d) := descale 2 e num den
  max (if 2 * topBit * d ≤ n then e + 1 else e) (-1074)

/-- The binary64 number nearest to a quotient, none if it lies beyond the greatest. -/
def ofRatio (negative : Bool) (num den : Nat) : Option Binary64 :=
  if num = 0 then some (.zero negative)
  else
    let e := exponentFor num den
    let (n, d) := descale 2 e num den
    let m := roundDiv n d
    let (m, e) := if m = 2 * topBit then (topBit, e + 1) else (m, e)
    if h : Canonical m e then some ⟨negative, m, e, h⟩ else none

/-- The binary64 number nearest to `digits * 10 ^ exponent`, none if it lies beyond the greatest.
Decimals with their first digit past the 310th place, on either side, are settled without their
powers of ten. -/
def ofDecimal (negative : Bool) (digits : Nat) (exponent : Int) : Option Binary64 :=
  if digits = 0 then some (.zero negative)
  else
    let places : Int := exponent + (Nat.toDigits 10 digits).length
    if 310 < places then none
    else if places < -330 then some (.zero negative)
    else
      let (n, d) := descale 10 (-exponent) digits 1
      ofRatio negative n d

end Inventory.Decimal
