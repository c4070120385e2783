import Inventory.Url.Percent

/-!
# Escapes and what they stand for

A text without escapes of its own is read back from its escaped form byte by byte: what is not
escaped stands for itself, and no percent sign of the text begins an escape. Main statements:
`mem_bytes`, `slash_not_mem_escape` and `bytes_escape`.
-/

namespace Inventory.Url.Percent

open Inventory.Text

/-! ## Reading escapes -/

/-- A character that is no part of an escape keeps its bytes when the escapes are read. -/
theorem mem_bytes {c : Char} (hsign : c ≠ '%') (hdigit : Hex.value? c = none)
    {b : UInt8} (hb : b ∈ String.utf8EncodeChar c) {cs : List Char} (hc : c ∈ cs) :
    b ∈ bytes cs := by
  induction cs using bytes.induct with
  | case1 => exact absurd hc List.not_mem_nil
  | case2 x y rest high low hlow hhigh ih =>
    rw [bytes, hhigh, hlow]
    rcases List.mem_cons.1 hc with rfl | hc
    · exact absurd rfl hsign
    rcases List.mem_cons.1 hc with rfl | hc
    · rw [hdigit] at hhigh
      contradiction
    rcases List.mem_cons.1 hc with rfl | hc
    · rw [hdigit] at hlow
      contradiction
    exact List.mem_cons_of_mem _ (ih hc)
  | case3 x y rest hno ih =>
    have hbytes : bytes ('%' :: x :: y :: rest) = 0x25 :: bytes (x :: y :: rest) := by
      rw [bytes]
      split
      · next high low hhigh hlow => exact (hno high low hhigh hlow).elim
      · rfl
    rw [hbytes]
    rcases List.mem_cons.1 hc with rfl | hc
    · exact absurd rfl hsign
    exact List.mem_cons_of_mem _ (ih hc)
  | case4 x rest hno ih =>
    rw [bytes.eq_3 x rest hno]
    rcases List.mem_cons.1 hc with rfl | hc
    · exact List.mem_append_left _ hb
    · exact List.mem_append_right _ (ih hc)

/-- The text makes an escape with a percent sign in front of it. -/
def completes : List Char → Bool
  | a :: b :: _ => (Hex.value? a).isSome && (Hex.value? b).isSome
  | _ => false

/-- There is an escape in the text. -/
def hasEscape : List Char → Bool
  | [] => false
  | c :: cs => c == '%' && completes cs || hasEscape cs

/-- A percent sign that begins no escape stands for itself. -/
theorem bytes_sign {cs : List Char} (h : completes cs = false) :
    bytes ('%' :: cs) = String.utf8EncodeChar '%' ++ bytes cs := by
  match cs with
  | [] => rfl
  | [a] => rfl
  | a :: b :: rest =>
    rw [bytes]
    split
    · next high low hhigh hlow =>
      rw [completes, hhigh, hlow] at h
      contradiction
    · rfl

/-- Any other character stands for itself. -/
theorem bytes_cons {c : Char} (h : c ≠ '%') (cs : List Char) :
    bytes (c :: cs) = String.utf8EncodeChar c ++ bytes cs :=
  bytes.eq_3 c cs fun _ _ _ hc _ => h hc

theorem bytes_flatMap_escapeByte (bs : List UInt8) (cs : List Char) :
    bytes (bs.flatMap escapeByte ++ cs) = bs ++ bytes cs := by
  induction bs with
  | nil => rfl
  | cons b bs ih =>
    rw [List.flatMap_cons, List.append_assoc, bytes_escapeByte, ih, List.cons_append]

/-! ## Escaping -/

/-- No escape holds a slash. -/
theorem slash_not_mem_escape {mustEscape : Char → Bool} {cs : List Char} (h : '/' ∉ cs) :
    '/' ∉ escape mustEscape cs := by
  have hdigit : ∀ n < 16, Hex.digit n ≠ '/' := by decide
  intro hmem
  obtain ⟨c, hc, hmem⟩ := List.mem_flatMap.1 hmem
  split at hmem
  · obtain ⟨b, -, hb⟩ := List.mem_flatMap.1 hmem
    have hlt : b.toNat < 256 := b.toNat_lt
    simp only [escapeByte, List.mem_cons, List.not_mem_nil, or_false] at hb
    rcases hb with hsign | hhigh | hlow
    · exact absurd hsign (by decide)
    · exact hdigit _ (by omega) hhigh.symm
    · exact hdigit _ (by omega) hlow.symm
  · rw [List.mem_singleton] at hmem
    rw [hmem] at h
    exact h hc

/-- A character stands for itself, or a percent sign comes in its place. -/
theorem escape_cons (mustEscape : Char → Bool) (c : Char) (cs : List Char) :
    escape mustEscape (c :: cs) = c :: escape mustEscape cs ∨
      ∃ ds, escape mustEscape (c :: cs) = '%' :: ds := by
  rw [escape, List.flatMap_cons, ← escape]
  split
  · right
    obtain ⟨b, bs, hbytes⟩ := List.exists_cons_of_ne_nil (String.utf8EncodeChar_ne_nil (c := c))
    rw [hbytes, List.flatMap_cons, escapeByte, List.cons_append, List.cons_append]
    exact ⟨_, rfl⟩
  · exact .inl rfl

/-- Nothing is escaped away. -/
theorem escape_ne_nil {mustEscape : Char → Bool} {cs : List Char} (h : cs ≠ []) :
    escape mustEscape cs ≠ [] := by
  obtain ⟨c, cs, rfl⟩ := List.exists_cons_of_ne_nil h
  rcases escape_cons mustEscape c cs with hc | ⟨ds, hds⟩
  · rw [hc]
    exact List.cons_ne_nil _ _
  · rw [hds]
    exact List.cons_ne_nil _ _

/-- Escaping completes no escape: what it puts in begins with a percent sign, which is no digit. -/
theorem completes_escape {mustEscape : Char → Bool} {cs : List Char} (h : completes cs = false) :
    completes (escape mustEscape cs) = false := by
  have hsign : Hex.value? '%' = none := by decide
  match cs with
  | [] => rfl
  | a :: cs =>
    rcases escape_cons mustEscape a cs with ha | ⟨ds, hds⟩
    · rw [ha]
      match cs with
      | [] => rfl
      | b :: rest =>
        rcases escape_cons mustEscape b rest with hb | ⟨ds, hds⟩
        · rw [hb]
          exact h
        · rw [hds, completes, hsign, Option.isSome_none, Bool.and_false]
    · rw [hds]
      cases ds with
      | nil => rfl
      | cons d ds => rw [completes, hsign, Option.isSome_none, Bool.false_and]

/-- What is escaped in a text without escapes is read back. -/
theorem bytes_escape {mustEscape : Char → Bool} (hsign : mustEscape '%' = false) :
    ∀ {cs : List Char}, hasEscape cs = false →
      bytes (escape mustEscape cs) = cs.flatMap String.utf8EncodeChar
  | [], _ => rfl
  | c :: cs, h => by
    rw [hasEscape, Bool.or_eq_false_iff] at h
    have ih := bytes_escape hsign h.2
    rw [List.flatMap_cons, ← ih, escape, List.flatMap_cons, ← escape]
    split
    · exact bytes_flatMap_escapeByte _ _
    · rw [List.singleton_append]
      by_cases hc : c = '%'
      · have hcompletes : completes cs = false := by simpa [hc] using h.1
        rw [hc, bytes_sign (completes_escape hcompletes)]
      · exact bytes_cons hc _

end Inventory.Url.Percent
