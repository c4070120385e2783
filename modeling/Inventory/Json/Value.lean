import Inventory.Json.Number
import Inventory.Table

/-!
# JSON values

The values of JSON texts, their members in order. A value that was read has its members sorted by
name, one for each name; a value that is to be written may list them in an order of its own.
-/

namespace Inventory.Json

/-- A JSON value. -/
inductive Value where
  | null
  | bool (b : Bool)
  | number (n : Number)
  | text (s : String)
  | array (items : List Value)
  | object (members : List (String × Value))

namespace Value

instance : Inhabited Value := ⟨.null⟩

/-- The whole number of a signed word. -/
def ofInt64 (n : Int64) : Value :=
  .number (.whole n.toInt ⟨by have := n.le_toInt; omega, by have := n.toInt_lt; omega⟩)

/-- The whole number of a word of 16 bits. -/
def ofUInt16 (n : UInt16) : Value :=
  .number (.whole n.toNat ⟨by omega, by have := n.toNat_lt; omega⟩)

/-- The array of some texts. -/
def ofTexts (texts : List String) : Value :=
  .array (texts.map .text)

/-- The value is null. -/
def isNull : Value → Bool
  | .null => true
  | _ => false

mutual

/-- Equality of values: floats are compared as numbers, members by name and place. -/
def same : Value → Value → Bool
  | .null, .null => true
  | .bool a, .bool b => a == b
  | .number m, .number n => m.same n
  | .text s, .text t => s == t
  | .array xs, .array ys => sameItems xs ys
  | .object xs, .object ys => sameMembers xs ys
  | _, _ => false

/-- Equality of the items of two arrays, one by one. -/
def sameItems : List Value → List Value → Bool
  | [], [] => true
  | x :: xs, y :: ys => same x y && sameItems xs ys
  | _, _ => false

/-- Equality of the members of two objects, one by one. -/
def sameMembers : List (String × Value) → List (String × Value) → Bool
  | [], [] => true
  | (k, x) :: xs, (l, y) :: ys => k == l && same x y && sameMembers xs ys
  | _, _ => false

end

mutual

/-- The levels of arrays and objects in a value; a value that is neither has none. -/
def levels : Value → Nat
  | .array xs => itemLevels xs + 1
  | .object xs => memberLevels xs + 1
  | _ => 0

/-- The most levels of one of the items. -/
def itemLevels : List Value → Nat
  | [] => 0
  | x :: xs => max x.levels (itemLevels xs)

/-- The most levels of one of the members. -/
def memberLevels : List (String × Value) → Nat
  | [] => 0
  | (_, x) :: xs => max x.levels (memberLevels xs)

end

mutual

/-- Every object in the value has its members sorted by name, one for each name. -/
def Canonical : Value → Prop
  | .array xs => ItemsCanonical xs
  | .object xs => Sorted xs ∧ MembersCanonical xs
  | _ => True

/-- Every item is canonical. -/
def ItemsCanonical : List Value → Prop
  | [] => True
  | x :: xs => x.Canonical ∧ ItemsCanonical xs

/-- The value of every member is canonical. -/
def MembersCanonical : List (String × Value) → Prop
  | [] => True
  | (_, x) :: xs => x.Canonical ∧ MembersCanonical xs

end

end Value

end Inventory.Json
