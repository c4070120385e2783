/-!
# Bytes as text

Reading bytes as UTF-8 in two ways: `decode?` refuses what is not well formed, `decodeLossy`
puts U+FFFD for each longest start of a character that is cut short. Main statements:
`decode?_toUTF8` (the bytes of a text are read back as that text) and `decodeLossy_ascii`.
-/

namespace Inventory.Text

/-- The bytes as text, if they are well-formed UTF-8. -/
def decode? (bytes : ByteArray) : Option String :=
  String.fromUTF8? bytes

namespace Utf8

/-- The character put for bytes that belong to none. -/
def replacement : Char := '\ufffd'

/-- A byte that can only continue a character. -/
def isTail (b : UInt8) : Bool := 0x80 ≤ b && b ≤ 0xbf

/-- The bytes that may follow first byte `a` of a character of three bytes. -/
def secondOfThree (a b : UInt8) : Bool :=
  if a == 0xe0 then 0xa0 ≤ b && b ≤ 0xbf
  else if a == 0xed then 0x80 ≤ b && b ≤ 0x9f
  else isTail b

/-- The bytes that may follow first byte `a` of a character of four bytes. -/
def secondOfFour (a b : UInt8) : Bool :=
  if a == 0xf0 then 0x90 ≤ b && b ≤ 0xbf
  else if a == 0xf4 then 0x80 ≤ b && b ≤ 0x8f
  else isTail b

/-- The six low bits of a continuing byte. -/
def low (b : UInt8) : Nat := b.toNat % 64

/-- The characters of the bytes, U+FFFD standing for each longest start of a character that is
cut short and for each byte that starts none. -/
def decodeLossy : List UInt8 → List Char
  | [] => []
  | a :: rest =>
    if a < 0x80 then Char.ofNat a.toNat :: decodeLossy rest
    else if 0xc2 ≤ a && a ≤ 0xdf then
      match rest with
      | [] => [replacement]
      | b :: rest₁ =>
        if isTail b then Char.ofNat (a.toNat % 32 * 64 + low b) :: decodeLossy rest₁
        else replacement :: decodeLossy (b :: rest₁)
    else if 0xe0 ≤ a && a ≤ 0xef then
      match rest with
      | [] => [replacement]
      | b :: rest₁ =>
        if secondOfThree a b then
          match rest₁ with
          | [] => [replacement]
          | c :: rest₂ =>
            if isTail c then
              Char.ofNat ((a.toNat % 16 * 64 + low b) * 64 + low c) :: decodeLossy rest₂
            else replacement :: decodeLossy (c :: rest₂)
        else replacement :: decodeLossy (b :: rest₁)
    else if 0xf0 ≤ a && a ≤ 0xf4 then
      match rest with
      | [] => [replacement]
      | b :: rest₁ =>
        if secondOfFour a b then
          match rest₁ with
          | [] => [replacement]
          | c :: rest₂ =>
            if isTail c then
              match rest₂ with
              | [] => [replacement]
              | d :: rest₃ =>
                if isTail d then
                  Char.ofNat (((a.toNat % 8 * 64 + low b) * 64 + low c) * 64 + low d)
                    :: decodeLossy rest₃
                else replacement :: decodeLossy (d :: rest₃)
            else replacement :: decodeLossy (c :: rest₂)
        else replacement :: decodeLossy (b :: rest₁)
    else replacement :: decodeLossy rest

end Utf8

/-- The bytes as text, U+FFFD standing for what is not well formed. -/
def decodeLossy (bytes : ByteArray) : String :=
  String.ofList (Utf8.decodeLossy bytes.toList)

/-- The bytes of a text are read back as that text. -/
theorem decode?_toUTF8 (s : String) : decode? s.toUTF8 = some s := by
  simp only [decode?, String.fromUTF8?, String.toUTF8_eq_toByteArray, dif_pos s.isValidUTF8]
  rfl

/-- An ASCII byte is read as the character of that number. -/
theorem decodeLossy_ascii {a : UInt8} (h : a < 0x80) (rest : List UInt8) :
    Utf8.decodeLossy (a :: rest) = Char.ofNat a.toNat :: Utf8.decodeLossy rest := by
  conv => lhs; unfold Utf8.decodeLossy
  simp [h]

end Inventory.Text
