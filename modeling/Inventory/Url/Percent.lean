import Inventory.Text.Hex

/-!
# Escapes in URLs

A URL is printable ASCII. What else it says is said in bytes, each a percent sign and two digits
in base sixteen. Main statement: `bytes_escapeByte` (an escaped byte is read back).
-/

namespace Inventory.Url.Percent

open Inventory.Text

/-- A byte, escaped. -/
def escapeByte (b : UInt8) : List Char := ['%', Hex.digit (b.toNat / 16), Hex.digit (b.toNat % 16)]

/-- A text in which certain characters are escaped byte by byte. -/
def escape (mustEscape : Char → Bool) (cs : List Char) : List Char :=
  cs.flatMap fun c =>
    if mustEscape c then (String.utf8EncodeChar c).flatMap escapeByte else [c]

/-- The bytes that a text with escapes stands for. A percent sign that begins no escape stands for
itself. -/
def bytes : List Char → List UInt8
  | [] => []
  | '%' :: a :: b :: rest =>
    match Hex.value? a, Hex.value? b with
    | some high, some low => UInt8.ofNat (high * 16 + low) :: bytes rest
    | _, _ => 0x25 :: bytes (a :: b :: rest)
  | c :: rest => String.utf8EncodeChar c ++ bytes rest

/-- The character is no printable ASCII character. -/
def isForeign (c : Char) : Bool := c.toNat < 0x20 || 0x7e < c.toNat

/-- The characters that are escaped in a path. -/
def inPath (c : Char) : Bool :=
  isForeign c || [' ', '"', '#', '<', '>', '?', '`', '{', '}'].contains c

/-- The characters that are escaped in a query. -/
def inQuery (c : Char) : Bool := isForeign c || [' ', '"', '#', '<', '>'].contains c

/-- The characters that are escaped in the query of a web address. -/
def inWebQuery (c : Char) : Bool := inQuery c || c == '\''

/-- An escaped byte is read back. -/
theorem bytes_escapeByte (b : UInt8) (rest : List Char) :
    bytes (escapeByte b ++ rest) = b :: bytes rest := by
  have hb : b.toNat < 256 := b.toNat_lt
  have hsum : b.toNat / 16 * 16 + b.toNat % 16 = b.toNat := Nat.div_add_mod' _ _
  simp only [escapeByte, List.cons_append, List.nil_append, bytes,
    Hex.value?_digit (show b.toNat / 16 < 16 by omega),
    Hex.value?_digit (show b.toNat % 16 < 16 by omega), hsum]
  simp

end Inventory.Url.Percent
