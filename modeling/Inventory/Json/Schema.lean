import Inventory.Json.Skip
import Inventory.Json.Writer
import Inventory.Outline

/-!
# Schemas

A schema describes a type once for three uses: reading it from JSON, writing it as JSON and
showing it as an outline. Records are described field by field; they are read from an object, or
from an array of their fields in order, and a field that is not given keeps its default. Main
statements: `Schema.field_encode` (what a field writes when it is not left out) and
`Schema.read_of_scan` (a document is read when its value is and only blanks follow).
-/

namespace Inventory.Json

/-- How a type is read, written and shown. -/
structure Schema (α : Type) where
  scan : Budget → Scan α
  encode : α → Value
  outline : α → Outline

/-- One field of a record: its name in JSON, its name in outlines, whether it must be given, how
it is read into a record, what is written for it (nothing if it is left out), how it is shown. -/
structure Field (σ : Type) where
  name : String
  label : String
  required : Bool
  scan : Budget → σ → Scan σ
  encode : σ → Option Value
  outline : σ → Outline

namespace Field

variable {σ : Type}

/-- A field of given schema, always written, shown under its name. -/
def of {α : Type} (name : String) (schema : Schema α) (get : σ → α) (set : σ → α → σ) :
    Field σ where
  name
  label := name
  required := false
  scan b s cs := (schema.scan b cs).map fun p => (set s p.1, p.2)
  encode s := some (schema.encode (get s))
  outline s := schema.outline (get s)

/-- The field shown under another name. -/
def shownAs (f : Field σ) (label : String) : Field σ := { f with label }

/-- The field, left out when writing a record for which the test holds. -/
def omittedWhen (f : Field σ) (test : σ → Bool) : Field σ :=
  { f with encode := fun s => if test s then none else f.encode s }

/-- The field, which has no default. -/
def mandatory (f : Field σ) : Field σ := { f with required := true }

end Field

namespace Schema

variable {α σ : Type}

/-! ## Plain values -/

/-- A text. -/
def text : Schema String where
  scan _ cs :=
    match skipBlanks cs with
    | '"' :: rest => scanText rest
    | rest => .error (unexpected "a string" rest)
  encode := .text
  outline := .text

/-- A truth value. -/
def flag : Schema Bool where
  scan _ cs :=
    match skipBlanks cs with
    | 't' :: rest => (scanWord ['r', 'u', 'e'] rest).map fun rest => (true, rest)
    | 'f' :: rest => (scanWord ['a', 'l', 's', 'e'] rest).map fun rest => (false, rest)
    | rest => .error (unexpected "a boolean" rest)
  encode := .bool
  outline b := .atom (if b then "true" else "false")

/-- A whole number, made into `α` where that can be done. -/
def whole (wanted : String) (ofInt? : Int → Option α) (toValue : α → Value)
    (shown : α → String) : Schema α where
  scan _ cs :=
    match skipBlanks cs with
    | [] => .error .ended
    | c :: rest =>
      if c = '-' ∨ c.isDigit then do
        match ← scanNumber (c :: rest) with
        | (.whole n _, rest) =>
          match ofInt? n with
          | some x => .ok (x, rest)
          | none => .error (.mismatch (.outOfRange n wanted))
        | (.float x, _) => .error (.mismatch (.wrongKind (.float x) wanted))
      else .error (unexpected wanted (c :: rest))
  encode := toValue
  outline x := .atom (shown x)

/-- The signed word of a number, if it is in range. -/
def int64OfInt? (n : Int) : Option Int64 :=
  if -9223372036854775808 ≤ n ∧ n < 9223372036854775808 then some (Int64.ofInt n) else none

/-- The word of 16 bits of a number, if it is in range. -/
def uint16OfInt? (n : Int) : Option UInt16 :=
  if 0 ≤ n ∧ n < 65536 then some (UInt16.ofNat n.toNat) else none

/-- A signed word of 64 bits. -/
def int64 : Schema Int64 :=
  whole "i64" int64OfInt? Value.ofInt64 fun n => String.ofList (Number.renderWhole n.toInt)

/-- An unsigned word of 16 bits. -/
def uint16 : Schema UInt16 :=
  whole "u16" uint16OfInt? Value.ofUInt16 fun n => String.ofList (Nat.toDigits 10 n.toNat)

/-- A text that denotes something; a text that does not is refused with a reason. -/
def denoting (parse : String → Except String α) (render : α → String) (shown : α → String) :
    Schema α where
  scan b cs := do
    let (s, rest) ← text.scan b cs
    match parse s with
    | .ok x => .ok (x, rest)
    | .error reason => .error (.mismatch (.refused reason))
  encode x := .text (render x)
  outline x := .atom (shown x)

/-! ## Lists, tables, any value -/

/-- A list. -/
def list (item : Schema α) : Schema (List α) where
  scan b cs :=
    match skipBlanks cs with
    | '[' :: rest => do
      let inner ← b.enter
      scanItems (item.scan inner) b.steps true rest
    | rest => .error (unexpected "a sequence" rest)
  encode xs := .array (xs.map item.encode)
  outline xs := .list "" (xs.map item.outline)

/-- Members read one after the other into a table. -/
def scanTable (value : Scan α) : Nat → Bool → Table α → Scan (Table α)
  | 0, _, _, _ => .error .malformed
  | steps + 1, first, table, cs => do
    match ← nextName first cs with
    | .closed rest => .ok (table, rest)
    | .more rest =>
      let (name, rest) ← scanText rest
      let rest ← scanColon rest
      let (v, rest) ← value rest
      scanTable value steps false (table.insert name v) rest

/-- A table. -/
def table (value : Schema α) : Schema (Table α) where
  scan b cs :=
    match skipBlanks cs with
    | '{' :: rest => do
      let inner ← b.enter
      scanTable (value.scan inner) b.steps true .empty rest
    | rest => .error (unexpected "a map" rest)
  encode t := .object (t.entries.map fun e => (e.1, value.encode e.2))
  outline t := .map "" (t.entries.map fun e => (e.1, value.outline e.2))

mutual

/-- How any value is shown. -/
def valueOutline : Value → Outline
  | .null => .atom "Null"
  | .bool true => .atom "Bool(true)"
  | .bool false => .atom "Bool(false)"
  | .number n => .atom ("Number(" ++ String.ofList n.render ++ ")")
  | .text s => .atom ("String(" ++ Text.quoted s ++ ")")
  | .array items => .list "Array " (itemOutlines items)
  | .object members => .map "Object " (memberOutlines members)

/-- How items are shown. -/
def itemOutlines : List Value → List Outline
  | [] => []
  | v :: rest => valueOutline v :: itemOutlines rest

/-- How members are shown. -/
def memberOutlines : List (String × Value) → List (String × Outline)
  | [] => []
  | (k, v) :: rest => (k, valueOutline v) :: memberOutlines rest

end

/-- Any value. -/
def value : Schema Value where
  scan b := scanValue b.steps b.levels
  encode v := v
  outline := valueOutline

/-! ## Records -/

/-- The fields of a record from an array after its opening bracket. -/
def scanFields (wanted : String) (b : Budget) : Nat → List (Field σ) → Bool → σ → Scan σ
  | _, [], _, s, cs => do
    let rest ← scanArrayEnd cs
    .ok (s, rest)
  | count, f :: fields, first, s, cs => do
    match ← nextItem first cs with
    | .closed rest =>
      if (f :: fields).any (·.required) then .error (.mismatch (.tooShort count wanted))
      else .ok (s, rest)
    | .more rest =>
      let (s, rest) ← f.scan b s rest
      scanFields wanted b (count + 1) fields false s rest

/-- The fields of a record from an object after its opening bracket. A field that was seen before
must not come again; members that are no fields are passed over. -/
def scanNamed (fields : List (Field σ)) (b : Budget) : Nat → Bool → List String → σ → Scan σ
  | 0, _, _, _, _ => .error .malformed
  | steps + 1, first, seen, s, cs => do
    match ← nextName first cs with
    | .closed rest =>
      match fields.find? fun f => f.required && !seen.contains f.name with
      | some f => .error (.mismatch (.missing f.name))
      | none => .ok (s, rest)
    | .more rest =>
      let (name, rest) ← scanText rest
      match fields.find? fun f => f.name == name with
      | some f =>
        if seen.contains name then .error (.mismatch (.repeated name))
        else
          let rest ← scanColon rest
          let (s, rest) ← f.scan b s rest
          scanNamed fields b steps false (name :: seen) s rest
      | none =>
        let rest ← scanColon rest
        let rest ← skipValue rest
        scanNamed fields b steps false seen s rest

/-- The members that are written for a record. -/
def members (fields : List (Field σ)) (s : σ) : List (String × Value) :=
  fields.filterMap fun f => (f.encode s).map fun v => (f.name, v)

/-- A record with the given name and defaults. -/
def record (name : String) (blank : σ) (fields : List (Field σ)) : Schema σ where
  scan b cs :=
    match skipBlanks cs with
    | '[' :: rest => do
      let inner ← b.enter
      let wanted := "struct " ++ name ++ " with "
        ++ String.ofList (Nat.toDigits 10 fields.length) ++ " elements"
      scanFields wanted inner 0 fields true blank rest
    | '{' :: rest => do
      let inner ← b.enter
      scanNamed fields inner b.steps true [] blank rest
    | rest => .error (unexpected ("struct " ++ name) rest)
  encode s := .object (members fields s)
  outline s := .fields name (fields.map fun f => (f.label, f.outline s))

/-! ## Documents -/

/-- Reads a document: one value with nothing but blanks after it. -/
def read (schema : Schema α) (document : String) : Except Misread α := do
  let cs := document.toList
  let (x, rest) ← schema.scan ⟨cs.length + 1, maxLevels⟩ cs
  match skipBlanks rest with
  | [] => .ok x
  | _ => .error .malformed

/-- Writes a document without blanks. -/
def write (schema : Schema α) (x : α) : String := (schema.encode x).write

/-- What a field writes when it is not left out. -/
theorem field_encode (f : Field σ) {test : σ → Bool} {s : σ} (h : test s = false) :
    (f.omittedWhen test).encode s = f.encode s := by
  simp [Field.omittedWhen, h]

/-- A document is read when its value is and only blanks follow. -/
theorem read_of_scan {schema : Schema α} {document : String} {x : α} {rest : List Char}
    (h : schema.scan ⟨document.toList.length + 1, maxLevels⟩ document.toList = .ok (x, rest))
    (hr : skipBlanks rest = []) : schema.read document = .ok x := by
  simp only [read, h, bind, Except.bind, hr]

end Schema

end Inventory.Json
