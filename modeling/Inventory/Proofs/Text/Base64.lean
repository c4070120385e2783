import Inventory.Text.Base64

/-!
# Reading base 64

A reader of base 64, group by group, and that it reads back what is written. Main statement:
`decode?_encode`.
-/

namespace Inventory.Text.Base64

/-- The value of a letter. -/
def value? (c : Char) : Option Nat :=
  if 'A' ≤ c ∧ c ≤ 'Z' then some (c.toNat - 65)
  else if 'a' ≤ c ∧ c ≤ 'z' then some (c.toNat - 97 + 26)
  else if '0' ≤ c ∧ c ≤ '9' then some (c.toNat - 48 + 52)
  else if c = '+' then some 62
  else if c = '/' then some 63
  else none

/-- The first byte of a group, from its first two values. -/
def first (w x : Nat) : UInt8 := UInt8.ofNat (w * 4 + x / 16)

/-- The second byte of a group, from the two values in its middle. -/
def second (x y : Nat) : UInt8 := UInt8.ofNat (x % 16 * 16 + y / 4)

/-- The third byte of a group, from its last two values. -/
def third (y z : Nat) : UInt8 := UInt8.ofNat (y % 4 * 64 + z)

/-- The bytes that groups of four letters stand for; only the last group may be filled up. -/
def decode? : List Char → Option (List UInt8)
  | [] => some []
  | c₁ :: c₂ :: c₃ :: c₄ :: rest => do
    let w ← value? c₁
    let x ← value? c₂
    if c₃ = '=' then
      if c₄ = '=' ∧ rest = [] then some [first w x] else none
    else
      let y ← value? c₃
      if c₄ = '=' then
        if rest = [] then some [first w x, second x y] else none
      else
        let z ← value? c₄
        let more ← decode? rest
        some (first w x :: second x y :: third y z :: more)
  | _ => none

theorem value?_letter {n : Nat} (h : n < 64) : value? (letter n) = some n := by
  have all : ∀ m ∈ List.range 64, value? (letter m) = some m := by decide
  exact all n (List.mem_range.2 h)

theorem letter_ne {n : Nat} (h : n < 64) : letter n ≠ '=' := by
  have all : ∀ m ∈ List.range 64, letter m ≠ '=' := by decide
  exact all n (List.mem_range.2 h)

/-! ## One group -/

section
variable {w x y z : Nat} (hw : w < 64) (hx : x < 64)
include hw hx

theorem decode?_two : decode? [letter w, letter x, '=', '='] = some [first w x] := by
  simp [decode?, value?_letter hw, value?_letter hx]

theorem decode?_three (hy : y < 64) :
    decode? [letter w, letter x, letter y, '='] = some [first w x, second x y] := by
  simp [decode?, value?_letter hw, value?_letter hx, value?_letter hy, letter_ne hy]

theorem decode?_four (hy : y < 64) (hz : z < 64) {rest : List Char} {bytes : List UInt8}
    (hrest : decode? rest = some bytes) :
    decode? (letter w :: letter x :: letter y :: letter z :: rest)
      = some (first w x :: second x y :: third y z :: bytes) := by
  simp [decode?, value?_letter hw, value?_letter hx, value?_letter hy, value?_letter hz,
    letter_ne hy, letter_ne hz, hrest]

end

/-- The upper six bits of a byte and its lower two, in front of any four, make up the byte. -/
theorem first_eq (a : UInt8) {more : Nat} (h : more < 16) :
    first (a.toNat / 4) (a.toNat % 4 * 16 + more) = a := by
  have hsum : a.toNat / 4 * 4 + (a.toNat % 4 * 16 + more) / 16 = a.toNat := by omega
  rw [first, hsum, UInt8.ofNat_toNat]

theorem second_eq (b : UInt8) (less : Nat) {more : Nat} (h : more < 4) :
    second (less * 16 + b.toNat / 16) (b.toNat % 16 * 4 + more) = b := by
  have hb := b.toNat_lt
  have hsum : (less * 16 + b.toNat / 16) % 16 * 16 + (b.toNat % 16 * 4 + more) / 4 = b.toNat := by
    omega
  rw [second, hsum, UInt8.ofNat_toNat]

theorem third_eq (c : UInt8) (less : Nat) :
    third (less * 4 + c.toNat / 64) (c.toNat % 64) = c := by
  have hc := c.toNat_lt
  have hsum : (less * 4 + c.toNat / 64) % 4 * 64 + c.toNat % 64 = c.toNat := by omega
  rw [third, hsum, UInt8.ofNat_toNat]

/-- The bytes are read back from their letters. -/
theorem decode?_encode (bytes : List UInt8) : decode? (encode bytes) = some bytes := by
  -- A group at a time, as the writer takes them; only the last one may have fewer than three bytes.
  induction bytes using encode.induct with
  | case1 => rfl
  | case2 a =>
    have ha := a.toNat_lt
    have hfirst := first_eq a (show 0 < 16 by omega)
    rw [Nat.add_zero] at hfirst
    rw [encode, decode?_two (by omega) (by omega), hfirst]
  | case3 a b =>
    have ha := a.toNat_lt
    have hb := b.toNat_lt
    have hsecond := second_eq b (a.toNat % 4) (show 0 < 4 by omega)
    rw [Nat.add_zero] at hsecond
    rw [encode, decode?_three (by omega) (by omega) (by omega), first_eq a (by omega), hsecond]
  | case4 a b c rest ih =>
    have ha := a.toNat_lt
    have hb := b.toNat_lt
    have hc := c.toNat_lt
    rw [encode, decode?_four (by omega) (by omega) (by omega) (by omega) ih,
      first_eq a (by omega), second_eq b _ (by omega), third_eq]

end Inventory.Text.Base64
