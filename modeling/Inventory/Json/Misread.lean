import Inventory.Json.Number
import Inventory.Text.Quoted

/-!
# What can be wrong with a JSON text

A text is malformed, ends too early, or is well formed as far as it was read and holds something
that does not fit what was wanted. Only the last kind has a wording of its own.
-/

namespace Inventory.Json

open Inventory.Decimal (Binary64)

/-- What stands where something else was wanted. -/
inductive Found where
  | null
  | bool (b : Bool)
  | whole (n : Int)
  | float (x : Binary64)
  | text (s : String)
  | sequence
  | map
  deriving DecidableEq

/-- How what was found is named. -/
def Found.describe : Found → String
  | .null => "null"
  | .bool true => "boolean `true`"
  | .bool false => "boolean `false`"
  | .whole n => "integer `" ++ String.ofList (Number.renderWhole n) ++ "`"
  | .float x => "floating point `" ++ String.ofList (Number.layout.render x) ++ "`"
  | .text s => "string " ++ Text.quoted s
  | .sequence => "sequence"
  | .map => "map"

/-- Why a well-formed text does not fit what was wanted. -/
inductive Mismatch where
  /-- Something of another kind was found. -/
  | wrongKind (found : Found) (wanted : String)
  /-- A whole number is out of the range that was wanted. -/
  | outOfRange (n : Int) (wanted : String)
  /-- A field that has no default is not there. -/
  | missing (field : String)
  /-- A field is given twice. -/
  | repeated (field : String)
  /-- A list of fields ends before a field that has no default. -/
  | tooShort (count : Nat) (wanted : String)
  /-- A text was found, as wanted, that does not denote what was wanted. -/
  | refused (reason : String)
  deriving DecidableEq

/-- The wording of a mismatch. -/
def Mismatch.message : Mismatch → String
  | .wrongKind found wanted => "invalid type: " ++ found.describe ++ ", expected " ++ wanted
  | .outOfRange n wanted =>
    "invalid value: " ++ (Found.whole n).describe ++ ", expected " ++ wanted
  | .missing field => "missing field `" ++ field ++ "`"
  | .repeated field => "duplicate field `" ++ field ++ "`"
  | .tooShort count wanted =>
    "invalid length " ++ String.ofList (Nat.toDigits 10 count) ++ ", expected " ++ wanted
  | .refused reason => reason

/-- The first thing wrong with a text that is read from left to right. -/
inductive Misread where
  | malformed
  | ended
  | mismatch (cause : Mismatch)
  deriving DecidableEq

end Inventory.Json
