import Inventory.Text.Utf8

/-!
# Bytes of texts

The bytes of a text are those of its characters one after the other, and the reading that never
fails takes each character from its bytes again, so that it changes nothing in bytes that are a
text. Main statements: `decodeLossy_utf8EncodeChar` (one character) and `decodeLossy_toUTF8`.
-/

namespace Inventory.Text

/-! ## Lists of bytes -/

theorem loop_eq (bytes : ByteArray) (i : Nat) (acc : List UInt8) :
    ByteArray.toList.loop bytes i acc = acc.reverse ++ bytes.data.toList.drop i := by
  induction i, acc using ByteArray.toList.loop.induct bytes with
  | case1 i acc h ih =>
    have hdrop : bytes.data.toList.drop i = bytes.data[i] :: bytes.data.toList.drop (i + 1) :=
      List.drop_eq_getElem_cons (by simpa using h)
    have hget : bytes.get! i = bytes.data[i] := by simp [ByteArray.get!, h]
    rw [ByteArray.toList.loop, if_pos h, ih, hdrop, hget]
    simp
  | case2 i acc h =>
    have hdrop : bytes.data.toList.drop i = [] := List.drop_of_length_le (by simpa using h)
    rw [ByteArray.toList.loop, if_neg h, hdrop, List.append_nil]

/-- The bytes of a text are those of its characters. -/
theorem toUTF8_eq (s : String) : s.toUTF8 = ⟨(s.toList.flatMap String.utf8EncodeChar).toArray⟩ := by
  rw [String.toUTF8_eq_toByteArray, ← String.utf8Encode_toList, List.utf8Encode,
    ← List.data_toByteArray]

theorem toList_toUTF8 (s : String) : s.toUTF8.toList = s.toList.flatMap String.utf8EncodeChar := by
  rw [toUTF8_eq, ByteArray.toList, loop_eq]
  rfl

/-! ## Characters from their bytes -/

namespace Utf8

theorem toNat_ofNat {n : Nat} (h : n < 256) : (UInt8.ofNat n).toNat = n := by
  rw [UInt8.toNat_ofNat']
  exact Nat.mod_eq_of_lt h

theorem isTail_iff {b : UInt8} : isTail b = true ↔ 0x80 ≤ b.toNat ∧ b.toNat ≤ 0xbf := by
  simp [isTail, UInt8.le_iff_toNat_le]

section
variable {l m n : Nat} (rest : List UInt8)

/-- A byte that continues a character carries its six low bits. -/
theorem tail_ofNat (hn : n < 64) :
    isTail (UInt8.ofNat (n + 0x80)) = true ∧ low (UInt8.ofNat (n + 0x80)) = n := by
  have hbyte : (UInt8.ofNat (n + 0x80)).toNat = n + 0x80 := toNat_ofNat (by omega)
  rw [isTail_iff, low, hbyte]
  omega

theorem decodeLossy_two (hm : 2 ≤ m ∧ m < 32) (hn : n < 64) :
    decodeLossy (UInt8.ofNat (m + 0xc0) :: UInt8.ofNat (n + 0x80) :: rest)
      = Char.ofNat (m * 64 + n) :: decodeLossy rest := by
  have hfirst : (UInt8.ofNat (m + 0xc0)).toNat = m + 0xc0 := toNat_ofNat (by omega)
  obtain ⟨htail, hlow⟩ := tail_ofNat hn
  have hvalue : (m + 0xc0) % 32 * 64 + n = m * 64 + n := by omega
  conv => lhs; unfold decodeLossy
  simp only [UInt8.lt_iff_toNat_lt, UInt8.le_iff_toNat_le, hfirst, Bool.and_eq_true,
    decide_eq_true_eq, UInt8.reduceToNat, htail, hlow, hvalue, if_true]
  rw [if_neg (by omega), if_pos (by omega)]

/-- No character of three bytes is smaller than `0x800` or half of a pair of surrogates. -/
theorem secondOfThree_ofNat (hl : l < 16) (hm : m < 64) (hlow : l = 0 → 32 ≤ m)
    (hpair : l = 13 → m < 32) :
    secondOfThree (UInt8.ofNat (l + 0xe0)) (UInt8.ofNat (m + 0x80)) = true := by
  have hfirst : (UInt8.ofNat (l + 0xe0)).toNat = l + 0xe0 := toNat_ofNat (by omega)
  have hsecond : (UInt8.ofNat (m + 0x80)).toNat = m + 0x80 := toNat_ofNat (by omega)
  simp only [secondOfThree, beq_iff_eq, ← UInt8.toNat_inj, hfirst, UInt8.reduceToNat]
  split
  · next h =>
    simp only [UInt8.le_iff_toNat_le, hsecond, Bool.and_eq_true, decide_eq_true_eq,
      UInt8.reduceToNat]
    omega
  · split
    · next h =>
      simp only [UInt8.le_iff_toNat_le, hsecond, Bool.and_eq_true, decide_eq_true_eq,
        UInt8.reduceToNat]
      omega
    · exact (tail_ofNat hm).1

theorem decodeLossy_three (hl : l < 16) (hm : m < 64) (hn : n < 64) (hlow : l = 0 → 32 ≤ m)
    (hpair : l = 13 → m < 32) :
    decodeLossy (UInt8.ofNat (l + 0xe0) :: UInt8.ofNat (m + 0x80) :: UInt8.ofNat (n + 0x80) :: rest)
      = Char.ofNat ((l * 64 + m) * 64 + n) :: decodeLossy rest := by
  have hfirst : (UInt8.ofNat (l + 0xe0)).toNat = l + 0xe0 := toNat_ofNat (by omega)
  have hsecond := secondOfThree_ofNat hl hm hlow hpair
  obtain ⟨-, hm⟩ := tail_ofNat hm
  obtain ⟨htail, hn⟩ := tail_ofNat hn
  have hvalue : (l + 0xe0) % 16 = l := by omega
  conv => lhs; unfold decodeLossy
  simp only [UInt8.lt_iff_toNat_lt, UInt8.le_iff_toNat_le, hfirst, Bool.and_eq_true,
    decide_eq_true_eq, UInt8.reduceToNat, hsecond, htail, hm, hn, hvalue, if_true]
  rw [if_neg (by omega), if_neg (by omega), if_pos (by omega)]

/-- No character of four bytes is smaller than `0x10000` or greater than `0x10ffff`. -/
theorem secondOfFour_ofNat {k : Nat} (hk : k < 5) (hl : l < 64) (hlow : k = 0 → 16 ≤ l)
    (hhigh : k = 4 → l < 16) :
    secondOfFour (UInt8.ofNat (k + 0xf0)) (UInt8.ofNat (l + 0x80)) = true := by
  have hfirst : (UInt8.ofNat (k + 0xf0)).toNat = k + 0xf0 := toNat_ofNat (by omega)
  have hsecond : (UInt8.ofNat (l + 0x80)).toNat = l + 0x80 := toNat_ofNat (by omega)
  simp only [secondOfFour, beq_iff_eq, ← UInt8.toNat_inj, hfirst, UInt8.reduceToNat]
  split
  · next h =>
    simp only [UInt8.le_iff_toNat_le, hsecond, Bool.and_eq_true, decide_eq_true_eq,
      UInt8.reduceToNat]
    omega
  · split
    · next h =>
      simp only [UInt8.le_iff_toNat_le, hsecond, Bool.and_eq_true, decide_eq_true_eq,
        UInt8.reduceToNat]
      omega
    · exact (tail_ofNat hl).1

theorem decodeLossy_four {k : Nat} (hk : k < 5) (hl : l < 64) (hm : m < 64) (hn : n < 64)
    (hlow : k = 0 → 16 ≤ l) (hhigh : k = 4 → l < 16) :
    decodeLossy (UInt8.ofNat (k + 0xf0) :: UInt8.ofNat (l + 0x80) :: UInt8.ofNat (m + 0x80)
        :: UInt8.ofNat (n + 0x80) :: rest)
      = Char.ofNat (((k * 64 + l) * 64 + m) * 64 + n) :: decodeLossy rest := by
  have hfirst : (UInt8.ofNat (k + 0xf0)).toNat = k + 0xf0 := toNat_ofNat (by omega)
  have hsecond := secondOfFour_ofNat hk hl hlow hhigh
  obtain ⟨-, hl⟩ := tail_ofNat hl
  obtain ⟨hthird, hm⟩ := tail_ofNat hm
  obtain ⟨hfourth, hn⟩ := tail_ofNat hn
  have hvalue : (k + 0xf0) % 8 = k := by omega
  conv => lhs; unfold decodeLossy
  simp only [UInt8.lt_iff_toNat_lt, UInt8.le_iff_toNat_le, hfirst, Bool.and_eq_true,
    decide_eq_true_eq, UInt8.reduceToNat, hsecond, hthird, hfourth, hl, hm, hn, hvalue, if_true]
  rw [if_neg (by omega), if_neg (by omega), if_neg (by omega), if_pos (by omega)]

end

/-- The reading that never fails takes a character from its bytes. -/
theorem decodeLossy_utf8EncodeChar (c : Char) (rest : List UInt8) :
    decodeLossy (String.utf8EncodeChar c ++ rest) = c :: decodeLossy rest := by
  have hc {v : Nat} (h : v = c.val.toNat) : Char.ofNat v = c := by
    rw [h]
    exact Char.ofNat_toNat c
  have hvalid : c.val.toNat < 0xd800 ∨ 0xdfff < c.val.toNat ∧ c.val.toNat < 0x110000 := c.valid
  unfold String.utf8EncodeChar
  dsimp only
  split
  · next hsmall =>
    have hbyte : (UInt8.ofNat c.val.toNat).toNat = c.val.toNat := toNat_ofNat (by omega)
    have hlt : UInt8.ofNat c.val.toNat < 0x80 := by
      rw [UInt8.lt_iff_toNat_lt, hbyte]
      exact Nat.lt_succ_of_le hsmall
    rw [List.singleton_append, decodeLossy_ascii hlt, hc hbyte]
  · split
    · rw [List.cons_append, List.singleton_append, decodeLossy_two rest (by omega) (by omega),
        hc (by omega)]
    · split
      · rw [List.cons_append, List.cons_append, List.singleton_append,
          decodeLossy_three rest (by omega) (by omega) (by omega) (by omega) (by omega),
          hc (by omega)]
      · rw [List.cons_append, List.cons_append, List.cons_append, List.singleton_append,
          decodeLossy_four rest (by omega) (by omega) (by omega) (by omega) (by omega) (by omega),
          hc (by omega)]

end Utf8

/-- Bytes that are a text are read as that text. -/
theorem decodeLossy_toUTF8 (s : String) : decodeLossy s.toUTF8 = s := by
  have hchars : ∀ cs : List Char, Utf8.decodeLossy (cs.flatMap String.utf8EncodeChar) = cs := by
    intro cs
    induction cs with
    | nil => rfl
    | cons c cs ih => rw [List.flatMap_cons, Utf8.decodeLossy_utf8EncodeChar, ih]
  rw [decodeLossy, toList_toUTF8, hchars, String.ofList_toList]

end Inventory.Text
