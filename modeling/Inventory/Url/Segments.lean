import Inventory.Text.Caseless
import Inventory.Text.Split
import Inventory.Url.Percent

/-!
# Segments of paths

A path is a row of segments. One point stands for nothing, two points take the segment before
away; either may be escaped. A path that ends in points ends in a slash afterwards. Main
statement: `resolve_of_plain` (without points nothing changes).
-/

namespace Inventory.Url.Segments

open Inventory.Text (sameLetters)

/-- The segment is one point. -/
def isPoint (segment : List Char) : Bool :=
  [['.'], ['%', '2', 'e']].any (sameLetters segment)

/-- The segment is two points. -/
def isTwoPoints (segment : List Char) : Bool :=
  [['.', '.'], ['.', '%', '2', 'e'], ['%', '2', 'e', '.'], ['%', '2', 'e', '%', '2', 'e']].any
    (sameLetters segment)

/-- Segments with their points resolved, after the given ones in reverse. -/
def resolve (before : List (List Char)) : List (List Char) → List (List Char)
  | [] => before.reverse
  | [last] =>
    if isTwoPoints last then ([] :: before.tail).reverse
    else if isPoint last then ([] :: before).reverse
    else (last :: before).reverse
  | segment :: next :: rest =>
    if isTwoPoints segment then resolve before.tail (next :: rest)
    else if isPoint segment then resolve before (next :: rest)
    else resolve (segment :: before) (next :: rest)

/-- Segments, each after a slash. -/
def join (segments : List (List Char)) : List Char := segments.flatMap ('/' :: ·)

/-- The path that a text after its first slash spells. -/
def path (isSlash : Char → Bool) (cs : List Char) : List Char :=
  join ((resolve [] (Text.split isSlash cs)).map (Percent.escape Percent.inPath))

/-- Without points nothing changes. -/
theorem resolve_of_plain {segments : List (List Char)}
    (h : ∀ s ∈ segments, isTwoPoints s = false ∧ isPoint s = false) :
    ∀ before, resolve before segments = before.reverse ++ segments := by
  induction segments with
  | nil => simp [resolve]
  | cons s rest ih =>
    intro before
    obtain ⟨h2, h1⟩ := h s (by simp)
    cases rest with
    | nil => simp [resolve, h2, h1]
    | cons next rest =>
      rw [resolve, if_neg (by simp [h2]), if_neg (by simp [h1]),
        ih (fun x hx => h x (by simp [hx]))]
      simp

end Inventory.Url.Segments
