import Inventory.Json.Misread
import Inventory.Json.Value
import Inventory.Text.Hex

/-!
# Reading JSON from left to right

A scan takes something from the front of a text and returns it with the rest, or the first thing
wrong. Scans read no further than they must: what follows is looked at only by the next scan.
The budget bounds the levels that may be opened and the steps of a loop; a loop that is given as
many steps as the text has characters never runs out of them. Main statements:
`skipBlanks_blank`, `skipBlanks_of_ne` and `scanDigits_append` (what each of the leaf scans takes).
-/

namespace Inventory.Json

open Inventory.Text

/-- A scan of the front of a text. -/
abbrev Scan (α : Type) := List Char → Except Misread (α × List Char)

/-- How many steps a loop may take and how many levels may still be opened. -/
structure Budget where
  steps : Nat
  levels : Nat

/-- The budget inside an array or object; a text that opens one level too many is malformed. -/
def Budget.enter (b : Budget) : Except Misread Budget :=
  match b.levels with
  | 0 => .error .malformed
  | levels + 1 => .ok { b with levels }

/-- Levels that a document may open. -/
def maxLevels : Nat := 127

/-- The character may stand between the parts of a text. -/
def isGap (c : Char) : Bool := c == ' ' || c == '\n' || c == '\t' || c == '\r'

/-- The text without the blanks at its front. -/
def skipBlanks : List Char → List Char
  | [] => []
  | c :: rest => if isGap c then skipBlanks rest else c :: rest

theorem skipBlanks_blank {c : Char} (h : isGap c = true) (rest : List Char) :
    skipBlanks (c :: rest) = skipBlanks rest := by
  simp [skipBlanks, h]

theorem skipBlanks_of_ne {c : Char} (h : isGap c = false) (rest : List Char) :
    skipBlanks (c :: rest) = c :: rest := by
  simp [skipBlanks, h]

/-- The rest of a word whose first letter was read. -/
def scanWord : List Char → List Char → Except Misread (List Char)
  | [], cs => .ok cs
  | _ :: _, [] => .error .ended
  | w :: ws, c :: cs => if c = w then scanWord ws cs else .error .malformed

/-! ## Text -/

/-- The bytes of a text. -/
def byteLength (cs : List Char) : Nat := cs.foldl (fun n c => n + c.utf8Size) 0

/-- The value of the four digits of an escape by number. -/
def unit? (a b c d : Char) : Option Nat :=
  match Hex.value? a, Hex.value? b, Hex.value? c, Hex.value? d with
  | some a, some b, some c, some d => some (((a * 16 + b) * 16 + c) * 16 + d)
  | _, _, _, _ => none

/-- What is wrong where fewer than four characters are left for the digits of an escape: with
fewer than four bytes left the text has ended, whatever they are. -/
def shortUnit (cs : List Char) : Misread := if byteLength cs < 4 then .ended else .malformed

/-- What is wrong where fewer than six characters are left for the second half of a pair. -/
def shortPair : List Char → Misread
  | [] => .ended
  | ['\\'] => .ended
  | '\\' :: 'u' :: rest => shortUnit rest
  | _ => .malformed

/-- The unit is the first half of a pair of surrogates. -/
def isLeading (n : Nat) : Bool := 0xd800 ≤ n && n ≤ 0xdbff

/-- The unit is the second half of a pair of surrogates. -/
def isTrailing (n : Nat) : Bool := 0xdc00 ≤ n && n ≤ 0xdfff

/-- The character of a pair of surrogates. -/
def pairChar (first second : Nat) : Char :=
  Char.ofNat ((first - 0xd800) * 1024 + (second - 0xdc00) + 0x10000)

/-- The character that a letter after a backslash stands for. -/
def shortEscape? (c : Char) : Option Char :=
  if c = '"' then some '"'
  else if c = '\\' then some '\\'
  else if c = '/' then some '/'
  else if c = 'b' then some '\x08'
  else if c = 'f' then some '\x0c'
  else if c = 'n' then some '\n'
  else if c = 'r' then some '\r'
  else if c = 't' then some '\t'
  else none

/-- A character put before what a scan of characters found. -/
def before (c : Char) (found : Except Misread (List Char × List Char)) :
    Except Misread (List Char × List Char) :=
  found.map fun p => (c :: p.1, p.2)

/-- The characters up to the closing quote. An escape by number is one unit or two that are a
pair of surrogates; half a pair is malformed, as is a control that is not escaped. -/
def scanChars : Scan (List Char)
  | [] => .error .ended
  | c :: rest =>
    if c = '"' then .ok ([], rest)
    else if c = '\\' then
      match rest with
      | [] => .error .ended
      | e :: rest =>
        if e = 'u' then
          match rest with
          | h₁ :: h₂ :: h₃ :: h₄ :: rest =>
            match unit? h₁ h₂ h₃ h₄ with
            | none => .error .malformed
            | some first =>
              if isTrailing first then .error .malformed
              else if isLeading first then
                match rest with
                | x :: y :: h₁ :: h₂ :: h₃ :: h₄ :: rest =>
                  if x = '\\' ∧ y = 'u' then
                    match unit? h₁ h₂ h₃ h₄ with
                    | none => .error .malformed
                    | some second =>
                      if isTrailing second then before (pairChar first second) (scanChars rest)
                      else .error .malformed
                  else .error .malformed
                | short => .error (shortPair short)
              else before (Char.ofNat first) (scanChars rest)
          | short => .error (shortUnit short)
        else
          match shortEscape? e with
          | some c => before c (scanChars rest)
          | none => .error .malformed
    else if c.toNat < 0x20 then .error .malformed
    else before c (scanChars rest)

/-- A text after its opening quote. -/
def scanText : Scan String := fun cs =>
  (scanChars cs).map fun p => (String.ofList p.1, p.2)

/-! ## Numbers -/

/-- The digits at the front, as a number that goes on from `n`, and how many they are. -/
def scanDigits : Nat → Nat → List Char → Nat × Nat × List Char
  | n, count, c :: rest =>
    if c.isDigit then scanDigits (n * 10 + (c.toNat - 48)) (count + 1) rest
    else (n, count, c :: rest)
  | n, count, [] => (n, count, [])

/-- Digits in front of something else are all taken. -/
theorem scanDigits_append (rest : List Char) (h : ∀ c ∈ rest.head?, c.isDigit = false) :
    ∀ (ds : List Char) (n count : Nat), (∀ d ∈ ds, d.isDigit = true) →
      scanDigits n count (ds ++ rest)
        = (ds.foldl (fun n d => n * 10 + (d.toNat - 48)) n, count + ds.length, rest)
  | [], n, count, _ => by
    cases rest with
    | nil => rfl
    | cons c r => simp [scanDigits, h c (by simp)]
  | d :: ds, n, count, hd => by
    rw [List.cons_append, scanDigits, if_pos (hd d (by simp)),
      scanDigits_append rest h ds _ _ fun x hx => hd x (by simp [hx])]
    simp only [List.foldl_cons, List.length_cons, Prod.mk.injEq, and_true, true_and]
    omega

/-- The digits of a whole number: a zero stands alone. -/
def scanWhole : Scan Nat
  | [] => .error .ended
  | c :: rest =>
    if c = '0' then
      match rest with
      | d :: _ => if d.isDigit then .error .malformed else .ok (0, rest)
      | [] => .ok (0, [])
    else if c.isDigit then
      let (n, _, rest) := scanDigits (c.toNat - 48) 1 rest
      .ok (n, rest)
    else .error .malformed

/-- The digits of a power of ten after its sign. -/
def scanPlaces (negative : Bool) : Scan Int
  | [] => .error .ended
  | c :: rest =>
    if c.isDigit then
      let (n, _, rest) := scanDigits (c.toNat - 48) 1 rest
      .ok (if negative then -(n : Int) else n, rest)
    else .error .malformed

/-- The power of ten after its letter. -/
def scanExponent : Scan Int
  | [] => .error .ended
  | c :: rest =>
    if c = '+' then scanPlaces false rest
    else if c = '-' then scanPlaces true rest
    else scanPlaces false (c :: rest)

/-- The decimals after the point: digits that go on from `n`, and how many they are. -/
def scanDecimals (n : Nat) (cs : List Char) : Except Misread (Nat × Nat × List Char) :=
  match scanDigits n 0 cs with
  | (_, 0, []) => .error .ended
  | (_, 0, _ :: _) => .error .malformed
  | found => .ok found

/-- A float of given sign and decimal value; one beyond the greatest is malformed. -/
def floatOf (negative : Bool) (digits : Nat) (exponent : Int) : Except Misread Number :=
  match Decimal.ofDecimal negative digits exponent with
  | some x => .ok (.float x)
  | none => .error .malformed

/-- A whole number of given sign and size; a float beyond the greatest is malformed. -/
def wholeOf (negative : Bool) (size : Nat) : Except Misread Number :=
  match Number.ofWhole negative size with
  | some x => .ok x
  | none => .error .malformed

/-- What follows the digits of a number, of which the last `places` are decimals: a power of ten,
or nothing that belongs to it, so that it is the plain number. -/
def scanPower (negative : Bool) (digits places : Nat) (plain : Except Misread Number) : Scan Number
  | [] => do
    let x ← plain
    .ok (x, [])
  | c :: rest =>
    if c = 'e' ∨ c = 'E' then do
      let (exponent, rest) ← scanExponent rest
      let x ← floatOf negative digits (exponent - places)
      .ok (x, rest)
    else do
      let x ← plain
      .ok (x, c :: rest)

/-- What follows the whole part of a number: its decimals and a power of ten, or one of the two,
or neither. -/
def scanFraction (negative : Bool) (whole : Nat) : Scan Number
  | [] => scanPower negative whole 0 (wholeOf negative whole) []
  | c :: rest =>
    if c = '.' then do
      let (digits, places, rest) ← scanDecimals whole rest
      scanPower negative digits places (floatOf negative digits (-(places : Int))) rest
    else scanPower negative whole 0 (wholeOf negative whole) (c :: rest)

/-- A number after its sign. -/
def scanUnsigned (negative : Bool) : Scan Number := fun cs => do
  let (whole, rest) ← scanWhole cs
  scanFraction negative whole rest

/-- A number. -/
def scanNumber : Scan Number
  | [] => .error .ended
  | c :: rest => if c = '-' then scanUnsigned true rest else scanUnsigned false (c :: rest)

/-- What is wrong when a text goes on otherwise than was wanted: whatever stands there is read as
far as it must be to be named. -/
def unexpected (wanted : String) : List Char → Misread
  | [] => .ended
  | c :: rest =>
    let named (found : Found) : Misread := .mismatch (.wrongKind found wanted)
    let word (letters : List Char) (found : Found) : Misread :=
      match scanWord letters rest with
      | .ok _ => named found
      | .error e => e
    if c = 'n' then word ['u', 'l', 'l'] .null
    else if c = 't' then word ['r', 'u', 'e'] (.bool true)
    else if c = 'f' then word ['a', 'l', 's', 'e'] (.bool false)
    else if c = '"' then
      match scanText rest with
      | .ok (s, _) => named (.text s)
      | .error e => e
    else if c = '[' then named .sequence
    else if c = '{' then named .map
    else if c = '-' ∨ c.isDigit then
      match scanNumber (c :: rest) with
      | .ok (.whole n _, _) => named (.whole n)
      | .ok (.float x, _) => named (.float x)
      | .error e => e
    else .malformed

/-! ## Arrays and objects -/

/-- Where a list of items or members goes on. -/
inductive Next where
  /-- At the next item, or after the opening quote of the next name. -/
  | more (rest : List Char)
  /-- After the closing bracket. -/
  | closed (rest : List Char)

/-- Goes on to the next item of an array. -/
def nextItem (first : Bool) (cs : List Char) : Except Misread Next :=
  match skipBlanks cs with
  | [] => .error .ended
  | c :: rest =>
    if c = ']' then .ok (.closed rest)
    else if first then .ok (.more (c :: rest))
    else if c = ',' then
      match skipBlanks rest with
      | [] => .error .ended
      | d :: rest => if d = ']' then .error .malformed else .ok (.more (d :: rest))
    else .error .malformed

/-- Goes on to the next name of an object, up to after its opening quote. -/
def nextName (first : Bool) (cs : List Char) : Except Misread Next :=
  match skipBlanks cs with
  | [] => .error .ended
  | c :: rest =>
    if c = '}' then .ok (.closed rest)
    else if first then if c = '"' then .ok (.more rest) else .error .malformed
    else if c = ',' then
      match skipBlanks rest with
      | [] => .error .ended
      | d :: rest => if d = '"' then .ok (.more rest) else .error .malformed
    else .error .malformed

/-- The colon between a name and its value. -/
def scanColon (cs : List Char) : Except Misread (List Char) :=
  match skipBlanks cs with
  | [] => .error .ended
  | c :: rest => if c = ':' then .ok rest else .error .malformed

/-- The closing bracket of an array of which nothing more is wanted. -/
def scanArrayEnd (cs : List Char) : Except Misread (List Char) :=
  match skipBlanks cs with
  | [] => .error .ended
  | c :: rest => if c = ']' then .ok rest else .error .malformed

/-- The items of an array after its opening bracket. -/
def scanItems {α : Type} (item : Scan α) : Nat → Bool → Scan (List α)
  | 0, _, _ => .error .malformed
  | steps + 1, first, cs => do
    match ← nextItem first cs with
    | .closed rest => .ok ([], rest)
    | .more rest =>
      let (x, rest) ← item rest
      let (xs, rest) ← scanItems item steps false rest
      .ok (x :: xs, rest)

/-- The members of an object after its opening bracket, put into the entries read so far: of two
members with one name the later counts. -/
def scanMembers {α : Type} (value : Scan α) :
    Nat → Bool → List (String × α) → Scan (List (String × α))
  | 0, _, _, _ => .error .malformed
  | steps + 1, first, entries, cs => do
    match ← nextName first cs with
    | .closed rest => .ok (entries, rest)
    | .more rest =>
      let (name, rest) ← scanText rest
      let rest ← scanColon rest
      let (v, rest) ← value rest
      scanMembers value steps false (insertEntry name v entries) rest

/-- A value with at most the given levels. -/
def scanValue (steps : Nat) : Nat → Scan Value
  | levels, cs =>
    match skipBlanks cs with
    | [] => .error .ended
    | c :: rest =>
      if c = 'n' then do
        let rest ← scanWord ['u', 'l', 'l'] rest
        .ok (.null, rest)
      else if c = 't' then do
        let rest ← scanWord ['r', 'u', 'e'] rest
        .ok (.bool true, rest)
      else if c = 'f' then do
        let rest ← scanWord ['a', 'l', 's', 'e'] rest
        .ok (.bool false, rest)
      else if c = '"' then do
        let (s, rest) ← scanText rest
        .ok (.text s, rest)
      else if c = '[' then
        match levels with
        | 0 => .error .malformed
        | levels + 1 => do
          let (items, rest) ← scanItems (scanValue steps levels) steps true rest
          .ok (.array items, rest)
      else if c = '{' then
        match levels with
        | 0 => .error .malformed
        | levels + 1 => do
          let (members, rest) ← scanMembers (scanValue steps levels) steps true [] rest
          .ok (.object members, rest)
      else if c = '-' ∨ c.isDigit then do
        let (n, rest) ← scanNumber (c :: rest)
        .ok (.number n, rest)
      else .error .malformed

end Inventory.Json
