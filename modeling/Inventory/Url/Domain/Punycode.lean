/-!
# Labels in ASCII

A label with characters outside ASCII has a form in ASCII: its ASCII characters, a hyphen, and
numbers that say step by step which character goes in where. A number is written with digits in
base thirty-six, the lowest first; a digit below a threshold ends it, and the thresholds adapt
to the size of the numbers. Main statement: `number?_shorter` (every step takes something from
the text, so that reading comes to an end).
-/

namespace Inventory.Url.Domain.Punycode

/-- The value of a digit. -/
def digit? (c : Char) : Option Nat :=
  let n := c.toNat
  if 97 ≤ n ∧ n ≤ 122 then some (n - 97)
  else if 48 ≤ n ∧ n ≤ 57 then some (n - 22)
  else none

/-- The digits below this end a number at a place (places count by thirty-six). -/
def threshold (bias place : Nat) : Nat :=
  if place ≤ bias then 1 else if bias + 26 ≤ place then 26 else place - bias

/-- A number from the front of a text: each digit counts `weight` at its place. -/
def number? (bias place weight sum : Nat) : List Char → Option (Nat × List Char)
  | [] => none
  | c :: rest =>
    match digit? c with
    | none => none
    | some d =>
      let t := threshold bias place
      if d < t then some (sum + d * weight, rest)
      else number? bias (place + 36) (weight * (36 - t)) (sum + d * weight) rest

/-- A number takes something from the text. -/
theorem number?_shorter {bias : Nat} : ∀ {cs : List Char} {place weight sum : Nat}
    {found : Nat × List Char}, number? bias place weight sum cs = some found →
      found.2.length < cs.length
  | [], _, _, _, _, h => by simp [number?] at h
  | c :: rest, place, weight, sum, found, h => by
    unfold number? at h
    split at h
    · simp at h
    · dsimp only at h
      split at h
      · rw [← Option.some.inj h]
        simp
      · have := number?_shorter h
        simp only [List.length_cons]
        omega

/-- Makes a number small enough to set the thresholds by, counting the steps. -/
def reduce (delta steps : Nat) : Nat × Nat :=
  if 455 < delta then reduce (delta / 35) (steps + 36) else (delta, steps)
termination_by delta
decreasing_by exact Nat.div_lt_self (by omega) (by omega)

/-- How the thresholds are set after a number, with so many characters in the label. -/
def adapt (delta count : Nat) (first : Bool) : Nat :=
  let d := if first then delta / 700 else delta / 2
  let (d, steps) := reduce (d + d / count) 0
  steps + 36 * d / (d + 38)

/-- The number is that of a character. -/
def isScalar (n : Nat) : Bool := n < 0xd800 || (0xdfff < n && n < 0x110000)

/-- Puts characters into a label one by one: `code` is the number of the last one, `place` where
the next one may go. -/
def fill (bias code place : Nat) (label : List Char) : List Char → Option (List Char)
  | [] => some label
  | c :: rest =>
    match _read : number? bias 36 1 place (c :: rest) with
    | none => none
    | some (n, left) =>
      let count := label.length + 1
      let code' := code + n / count
      if isScalar code' then
        fill (adapt (n - place) count (place == 0)) code' (n % count + 1)
          (label.insertIdx (n % count) (Char.ofNat code')) left
      else none
termination_by cs => cs.length
decreasing_by
  have := number?_shorter _read
  simpa using this

/-- The ASCII characters of a label and the numbers after the last hyphen. -/
def splitHyphen (cs : List Char) : List Char × List Char :=
  let numbers := (cs.reverse.takeWhile (· ≠ '-')).reverse
  (((cs.reverse.dropWhile (· ≠ '-')).drop 1).reverse, numbers)

/-- The label that a form in ASCII stands for. -/
def decode? (cs : List Char) : Option (List Char) :=
  let (label, numbers) := splitHyphen cs
  if label.all (·.toNat < 0x80) then fill 72 128 0 label numbers else none

end Inventory.Url.Domain.Punycode
