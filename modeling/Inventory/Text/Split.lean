/-!
# Splitting texts

A text is split into the parts between its separators; there is one part more than there are
separators. Main statements: `split_of_none` (a text without separators is its only part) and
`intercalate_split` (the parts make up the text).
-/

namespace Inventory.Text

/-- The parts of a text between separators. -/
def split (isSeparator : Char → Bool) : List Char → List (List Char)
  | [] => [[]]
  | c :: rest =>
    if isSeparator c then [] :: split isSeparator rest
    else
      match split isSeparator rest with
      | [] => [[c]]
      | part :: parts => (c :: part) :: parts

/-- There is always a part. -/
theorem split_ne_nil (isSeparator : Char → Bool) (cs : List Char) : split isSeparator cs ≠ [] := by
  cases cs with
  | nil => simp [split]
  | cons c rest =>
    unfold split
    split
    · simp
    · split <;> simp

/-- A text without separators is its only part. -/
theorem split_of_none {isSeparator : Char → Bool} {cs : List Char}
    (h : ∀ c ∈ cs, isSeparator c = false) : split isSeparator cs = [cs] := by
  induction cs with
  | nil => rfl
  | cons c cs ih =>
    rw [split, h c (by simp), ih fun d hd => h d (by simp [hd])]
    rfl

/-- The parts with their separator between them make up the text. -/
theorem intercalate_split (s : Char) (cs : List Char) :
    [s].intercalate (split (· == s) cs) = cs := by
  induction cs with
  | nil => rfl
  | cons c cs ih =>
    obtain ⟨part, parts, hs⟩ := List.exists_cons_of_ne_nil (split_ne_nil (· == s) cs)
    rw [hs] at ih
    by_cases h : c = s
    · rw [split, if_pos (beq_iff_eq.2 h), hs, List.intercalate_cons_cons, ih, h]
      rfl
    · rw [split, if_neg (by simpa using h), hs]
      exact List.intercalate_cons_cons_left.trans (congrArg (c :: ·) ih)

end Inventory.Text
