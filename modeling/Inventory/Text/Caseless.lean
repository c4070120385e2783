/-!
# Comparing letters without their case

The case of the letters A to Z is disregarded, no other character is changed. `occursIn` looks for
one text inside another, letter by letter and with case. Main statements: `sameLetters_iff` and
`occursIn_iff` (a text occurs in another exactly when that one is split around it).
-/

namespace Inventory.Text

/-- The texts agree but for the case of the letters A to Z. -/
def sameLetters (cs ds : List Char) : Bool := cs.map Char.toLower == ds.map Char.toLower

theorem sameLetters_iff {cs ds : List Char} :
    sameLetters cs ds = true ↔ cs.map Char.toLower = ds.map Char.toLower := by
  simp [sameLetters]

/-- A small letter is the small form of itself and of its capital. -/
theorem toLower_eq_iff {c small capital : Char} (hcapital : capital.isUpper = true)
    (hsmall : capital.toNat + 32 = small.toNat) :
    c.toLower = small ↔ c = small ∨ c = capital := by
  have hrange : 65 ≤ capital.toNat ∧ capital.toNat ≤ 90 := of_decide_eq_true hcapital
  have heq (c d : Char) : c = d ↔ c.toNat = d.toNat := by
    rw [Char.ext_iff, ← UInt32.toNat_inj]
    rfl
  unfold Char.toLower
  split
  · next h =>
    have hupper : 65 ≤ c.toNat ∧ c.toNat ≤ 90 := h
    rw [heq _ small, heq, heq]
    show (c.val + 32).toNat = small.toNat ↔ _
    rw [UInt32.toNat_add]
    show (c.toNat + 32) % _ = _ ↔ _
    omega
  · next h =>
    have hother : ¬ (65 ≤ c.toNat ∧ c.toNat ≤ 90) := h
    rw [heq, heq]
    omega

/-- The first text occurs somewhere in the second. -/
def occursIn (part : List Char) : List Char → Bool
  | [] => part.isEmpty
  | c :: rest => part.isPrefixOf (c :: rest) || occursIn part rest

/-- A text occurs in another exactly when that one is split around it. -/
theorem occursIn_iff {part cs : List Char} :
    occursIn part cs = true ↔ ∃ l r, cs = l ++ part ++ r := by
  induction cs with
  | nil =>
    simp only [occursIn, List.isEmpty_iff]
    constructor
    · rintro rfl; exact ⟨[], [], rfl⟩
    · rintro ⟨l, r, h⟩
      have := congrArg List.length h
      simp only [List.length_nil, List.length_append] at this
      exact List.length_eq_zero_iff.1 (by omega)
  | cons c rest ih =>
    simp only [occursIn, Bool.or_eq_true, List.isPrefixOf_iff_prefix, ih]
    constructor
    · rintro (⟨r, h⟩ | ⟨l, r, h⟩)
      · exact ⟨[], r, by simp [h]⟩
      · exact ⟨c :: l, r, by simp [h]⟩
    · rintro ⟨l, r, h⟩
      cases l with
      | nil => exact .inl ⟨r, by simpa using h.symm⟩
      | cons d l =>
        simp only [List.cons_append, List.cons.injEq] at h
        exact .inr ⟨l, r, by simpa using h.2⟩

end Inventory.Text
