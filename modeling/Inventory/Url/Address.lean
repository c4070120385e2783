import Inventory.Text.Hex
import Inventory.Text.Split

/-!
# Addresses by number

A host may be given by number: in up to four numbers with points between them, the last of which
fills what is left of four bytes, or in eight words with colons between them, where two colons
stand for as many noughts as are missing.
-/

namespace Inventory.Url.Address

open Inventory.Text (split)

/-! ## Four bytes -/

/-- The value of digits in some base, if all are digits of that base. -/
def value? (base : Nat) (cs : List Char) : Option Nat :=
  cs.foldl (fun sum c => do
    let n ← sum
    let d ← Text.Hex.value? c
    if d < base then some (n * base + d) else none) (some 0)

/-- A number of an address: in base sixteen after a nought and an x, in base eight after a nought,
in base ten otherwise. -/
def number? : List Char → Option Nat
  | [] => none
  | '0' :: 'x' :: digits => value? 16 digits
  | '0' :: d :: digits => value? 8 (d :: digits)
  | digits => value? 10 digits

/-- The label is made of digits or is a number. -/
def isNumeric (label : List Char) : Bool :=
  label != [] && (label.all Char.isDigit || (number? label).isSome)

/-- The labels of a name without an empty one at the end. -/
def withoutRoot (labels : List (List Char)) : List (List Char) :=
  match labels.reverse with
  | [] :: before => before.reverse
  | _ => labels

/-- The last label says that the name is meant as an address. -/
def endsInNumber (labels : List (List Char)) : Bool :=
  ((withoutRoot labels).getLast?.map isNumeric).getD false

/-- Numbers below 256 in a row, as one. -/
def joinBytes (bytes : List Nat) : Nat := bytes.foldl (fun n b => n * 256 + b) 0

/-- How many values so many bytes have. -/
def span : Nat → Nat
  | 0 => 1
  | n + 1 => span n * 256

/-- The address of four bytes that labels spell. -/
def ipv4? (labels : List (List Char)) : Option Nat := do
  let numbers ← (withoutRoot labels).mapM number?
  match numbers.reverse with
  | [] => none
  | last :: before =>
    if before.length < 4 && before.all (· < 256) && last < span (4 - before.length) then
      some (joinBytes before.reverse * span (4 - before.length) + last)
    else none

/-! ## Eight words -/

/-- A word: one to four digits in base sixteen. -/
def word? (cs : List Char) : Option Nat :=
  if cs = [] ∨ 4 < cs.length then none else value? 16 cs

/-- A byte in base ten, without noughts in front. -/
def byte? (cs : List Char) : Option Nat :=
  match cs with
  | [] => none
  | '0' :: _ :: _ => none
  | _ =>
    match value? 10 cs with
    | some n => if n < 256 then some n else none
    | none => none

/-- The two words that four bytes with points between them make. -/
def quad? (cs : List Char) : Option (List Nat) :=
  match (split (· == '.') cs).mapM byte? with
  | some [a, b, c, d] => some [a * 256 + b, c * 256 + d]
  | _ => none

/-- Words in a row, the last two of which may be given as four bytes. -/
def words? : List (List Char) → Option (List Nat)
  | [] => some []
  | [last] =>
    match word? last with
    | some w => some [w]
    | none => quad? last
  | part :: parts => do
    let w ← word? part
    let ws ← words? parts
    some (w :: ws)

/-- What stands before and after two colons. -/
def splitColons : List Char → Option (List Char × List Char)
  | [] => none
  | ':' :: ':' :: rest => some ([], rest)
  | c :: rest => (splitColons rest).map fun p => (c :: p.1, p.2)

/-- The words before two colons. -/
def front? (cs : List Char) : Option (List Nat) :=
  if cs = [] then some [] else (split (· == ':') cs).mapM word?

/-- The words after two colons. -/
def back? (cs : List Char) : Option (List Nat) :=
  if cs = [] then some [] else words? (split (· == ':') cs)

/-- The address of eight words that a text spells. Two colons stand for at least one nought. -/
def ipv6? (cs : List Char) : Option (List Nat) :=
  match splitColons cs with
  | none =>
    match words? (split (· == ':') cs) with
    | some ws => if ws.length = 8 then some ws else none
    | none => none
  | some (before, after) =>
    match front? before, back? after with
    | some ws, some vs =>
      if ws.length + vs.length < 8 then
        some (ws ++ List.replicate (8 - ws.length - vs.length) 0 ++ vs)
      else none
    | _, _ => none

end Inventory.Url.Address
