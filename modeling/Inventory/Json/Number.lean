import Inventory.Decimal.Layout

/-!
# Numbers of JSON

A number is a whole number in the range of the 64-bit words, signed or unsigned, or else a finite
binary64 number.
-/

namespace Inventory.Json

open Inventory.Decimal (Binary64 Layout)

/-- The range of whole numbers: what a signed or an unsigned word of 64 bits can hold. -/
def FitsWord (n : Int) : Prop := -9223372036854775808 ≤ n ∧ n < 18446744073709551616

instance (n : Int) : Decidable (FitsWord n) := inferInstanceAs (Decidable (_ ∧ _))

/-- A number of a JSON text. -/
inductive Number where
  | whole (n : Int) (fits : FitsWord n)
  | float (x : Binary64)
  deriving DecidableEq

namespace Number

/-- Floats have at least one decimal or a power of ten: plain when the first digit stands
between the fifth decimal and the sixteenth place, otherwise with a signed power of ten. -/
def layout : Layout where
  plainFrom := -5
  plainTo := 15
  plus := ['+']
  wholeEnd := ['.', '0']

/-- A whole number of any size with its sign: minus zero and what is out of range become floats,
unless they lie beyond the greatest float. -/
def ofWhole (negative : Bool) (size : Nat) : Option Number :=
  let n : Int := if negative then -(size : Int) else size
  if h : FitsWord n ∧ ¬ (negative = true ∧ size = 0) then some (.whole n h.1)
  else (Decimal.ofDecimal negative size 0).map .float

/-- The digits of a whole number, after a minus if it is negative. -/
def renderWhole (n : Int) : List Char :=
  if n < 0 then '-' :: Nat.toDigits 10 n.natAbs else Nat.toDigits 10 n.natAbs

/-- How a number is written. -/
def render : Number → List Char
  | .whole n _ => renderWhole n
  | .float x => layout.render x

/-- Equality of numbers: a whole number is never equal to a float, and the two float zeros
are equal. -/
def same : Number → Number → Bool
  | .whole m _, .whole n _ => m == n
  | .float x, .float y => x.same y
  | _, _ => false

end Number

end Inventory.Json
