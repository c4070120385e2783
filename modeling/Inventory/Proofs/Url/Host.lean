import Inventory.Proofs.Files.Write
import Inventory.Proofs.Text.Utf8
import Inventory.Proofs.Url.Clean
import Inventory.Proofs.Url.Percent
import Inventory.Url.Host

/-!
# Hosts and what is cut off at the ends of texts

A control or a blank at the end of a host is no part of any escape, so that it is still there when
the escapes are read, and no domain holds it. Main statement: `ofWeb?_eq_none`.
-/

namespace Inventory.Url

/-! ## Bytes of characters -/

/-- A small byte belongs to the ASCII character of that number. -/
theorem toNat_of_mem_utf8EncodeChar {c : Char} {b : UInt8} (h : b ∈ String.utf8EncodeChar c)
    (hb : b.toNat < 0x80) : c.toNat = b.toNat := by
  have hc : c.toNat = c.val.toNat := rfl
  have hbyte : ∀ n : Nat, n < 256 → (UInt8.ofNat n).toNat = n := fun n hn => by
    rw [UInt8.toNat_ofNat']
    exact Nat.mod_eq_of_lt hn
  unfold String.utf8EncodeChar at h
  dsimp only at h
  split at h
  · next hsmall =>
    rw [List.mem_singleton] at h
    rw [h, hbyte _ (by omega), hc]
  -- The bytes of any other character are large.
  · exfalso
    split at h
    · simp only [List.mem_cons, List.not_mem_nil, or_false] at h
      rcases h with rfl | rfl <;> rw [hbyte _ (by omega)] at hb <;> omega
    · split at h
      · simp only [List.mem_cons, List.not_mem_nil, or_false] at h
        rcases h with rfl | rfl | rfl <;> rw [hbyte _ (by omega)] at hb <;> omega
      · simp only [List.mem_cons, List.not_mem_nil, or_false] at h
        rcases h with rfl | rfl | rfl | rfl <;> rw [hbyte _ (by omega)] at hb <;> omega

/-- The characters of a text that is read from bytes have a place for every small byte. -/
theorem mem_of_decode? {bytes : List UInt8} {s : String}
    (h : Text.decode? ⟨bytes.toArray⟩ = some s) {b : UInt8} (hb : b ∈ bytes)
    (hsmall : b.toNat < 0x80) :
    ∃ c ∈ s.toList, c.toNat = b.toNat := by
  have hbytes : s.toList.flatMap String.utf8EncodeChar = bytes := by
    have heq := Files.Disk.toUTF8_of_decode? h
    rw [Text.toUTF8_eq] at heq
    simpa using heq
  rw [← hbytes] at hb
  obtain ⟨c, hc, hmem⟩ := List.mem_flatMap.1 hb
  exact ⟨c, hc, toNat_of_mem_utf8EncodeChar hmem hsmall⟩

/-! ## Controls and blanks -/

/-- Where a step is taken for every element, each of them has a result. -/
theorem exists_of_mapM {α β : Type} {f : α → Option β} :
    ∀ {xs : List α} {ys : List β}, xs.mapM f = some ys → ∀ x ∈ xs, ∃ y ∈ ys, f x = some y
  | [], _, _, _, hz => absurd hz List.not_mem_nil
  | x :: xs, ys, h, z, hz => by
    rw [List.mapM_cons] at h
    obtain ⟨y, hy, h⟩ := Option.bind_eq_some_iff.1 h
    obtain ⟨ys', hys, h⟩ := Option.bind_eq_some_iff.1 h
    obtain rfl := Option.some.inj h
    rcases List.mem_cons.1 hz with rfl | hz
    · exact ⟨y, List.mem_cons_self .., hy⟩
    · obtain ⟨w, hw, hf⟩ := exists_of_mapM hys z hz
      exact ⟨w, List.mem_cons_of_mem _ hw, hf⟩

section
variable {c : Char} (hc : isEdge c = true)
include hc

theorem le_of_isEdge : c.toNat ≤ 0x20 := of_decide_eq_true hc

theorem ne_of_isEdge {d : Char} (hd : 0x20 < d.toNat) : c ≠ d := by
  have hle := le_of_isEdge hc
  rintro rfl
  omega

theorem value?_of_isEdge : Text.Hex.value? c = none := by
  have hle := le_of_isEdge hc
  unfold Text.Hex.value?
  dsimp only
  rw [if_neg (by omega), if_neg (by omega), if_neg (by omega)]

theorem utf8EncodeChar_of_isEdge : String.utf8EncodeChar c = [UInt8.ofNat c.toNat] := by
  have hle : c.val.toNat ≤ 127 := by
    have hle : c.val.toNat ≤ 0x20 := le_of_isEdge hc
    omega
  unfold String.utf8EncodeChar
  dsimp only
  rw [if_pos hle]
  rfl

/-- A character that domains do not hold makes a text none. -/
theorem Domain.name?_eq_none {cs : List Char} (hmem : c ∈ cs) : Domain.name? cs = none := by
  have hle := le_of_isEdge hc
  have hlower : c.toLower = c := by
    unfold Char.toLower
    split
    · next hupper =>
      have hupper : 65 ≤ c.toNat ∧ c.toNat ≤ 90 := hupper
      omega
    · rfl
  have hforbidden : Domain.isForbidden c = true := by
    simp only [Domain.isForbidden, decide_eq_true hle, Bool.true_or]
  unfold Domain.name?
  split
  · rfl
  · next spelled hspelled =>
    have hname : c ∈ spelled.flatten := by
      obtain ⟨letters, hletters, heq⟩ := exists_of_mapM hspelled c hmem
      have hself := Domain.letters?_of_ascii (show c.toNat < 0x80 by omega)
      rw [heq, hlower] at hself
      rw [Option.some.inj hself] at hletters
      exact List.mem_flatten.2 ⟨[c], hletters, List.mem_singleton_self c⟩
    dsimp only
    rw [if_pos (List.any_eq_true.2 ⟨c, hname, hforbidden⟩)]

/-- No host of the web ends in a control or a blank. -/
theorem Host.ofWeb?_eq_none (cs : List Char) : Host.ofWeb? (cs ++ [c]) = none := by
  have hle := le_of_isEdge hc
  unfold Host.ofWeb?
  split
  · next rest hrest =>
    -- The closing bracket would have to be the last character.
    have hend : c ≠ ']' := ne_of_isEdge hc (by decide)
    cases cs with
    | nil => exact absurd (List.cons.inj hrest).1 (ne_of_isEdge hc (by decide))
    | cons d cs =>
      have hreverse : rest.reverse = c :: cs.reverse := by
        have hinner : cs ++ [c] = rest := (List.cons.inj hrest).2
        rw [← hinner, List.reverse_append, List.reverse_singleton, List.singleton_append]
      unfold inBrackets?
      rw [hreverse]
      split
      · next hclose => exact absurd (List.cons.inj hclose).1 hend
      · rfl
  · split
    · rfl
    · next decoded hdecoded =>
      have hbyte : UInt8.ofNat c.toNat ∈ Percent.bytes (cs ++ [c]) := by
        refine Percent.mem_bytes (ne_of_isEdge hc (by decide)) (value?_of_isEdge hc) ?_
          (List.mem_append_right _ (List.mem_singleton_self c))
        rw [utf8EncodeChar_of_isEdge hc]
        exact List.mem_singleton_self _
      have hnat : (UInt8.ofNat c.toNat).toNat = c.toNat := by
        rw [UInt8.toNat_ofNat']
        omega
      obtain ⟨d, hd, hdc⟩ := mem_of_decode? hdecoded hbyte (by omega)
      have hd' : isEdge d = true := by
        rw [isEdge, hdc, hnat]
        exact hc
      rw [Domain.name?_eq_none hd' hd, Option.bind_none]

end

end Inventory.Url
