import Inventory.Json.Scan

/-!
# Passing over JSON values

A value that nobody wants is passed over with its form checked but not its meaning: a number may
be of any size, an escape by number need not be half of a pair, and levels are not counted. Main
statement: `skipChars_quote`.
-/

namespace Inventory.Json

/-- Passes over a text after its opening quote. -/
def skipChars : List Char → Except Misread (List Char)
  | [] => .error .ended
  | c :: rest =>
    if c = '"' then .ok rest
    else if c = '\\' then
      match rest with
      | [] => .error .ended
      | e :: rest =>
        if e = 'u' then
          match rest with
          | h₁ :: h₂ :: h₃ :: h₄ :: rest =>
            match unit? h₁ h₂ h₃ h₄ with
            | none => .error .malformed
            | some _ => skipChars rest
          | short => .error (shortUnit short)
        else
          match shortEscape? e with
          | some _ => skipChars rest
          | none => .error .malformed
    else if c.toNat < 0x20 then .error .malformed
    else skipChars rest

/-- A closing quote ends the text. -/
theorem skipChars_quote (rest : List Char) : skipChars ('"' :: rest) = .ok rest := by
  unfold skipChars
  simp

/-- The text without the digits at its front. -/
def skipDigits : List Char → List Char
  | [] => []
  | c :: rest => if c.isDigit then skipDigits rest else c :: rest

/-- Passes over one digit and those that follow it; without one the text is malformed, even at
its end. -/
def skipSomeDigits : List Char → Except Misread (List Char)
  | [] => .error .malformed
  | c :: rest => if c.isDigit then .ok (skipDigits rest) else .error .malformed

/-- Passes over a power of ten, if there is one. -/
def skipExponent : List Char → Except Misread (List Char)
  | [] => .ok []
  | c :: rest =>
    if c = 'e' ∨ c = 'E' then
      match rest with
      | '+' :: rest => skipSomeDigits rest
      | '-' :: rest => skipSomeDigits rest
      | rest => skipSomeDigits rest
    else .ok (c :: rest)

/-- Passes over a number after its sign. -/
def skipUnsigned (cs : List Char) : Except Misread (List Char) := do
  let rest ← match cs with
    | '0' :: d :: rest => if d.isDigit then .error .malformed else .ok (d :: rest)
    | cs => skipSomeDigits cs
  match rest with
  | '.' :: rest => do
    let rest ← skipSomeDigits rest
    skipExponent rest
  | rest => skipExponent rest

/-- Passes over a value that is neither array nor object, given its first character. -/
def skipPlain (c : Char) (rest : List Char) : Except Misread (List Char) :=
  if c = 'n' then scanWord ['u', 'l', 'l'] rest
  else if c = 't' then scanWord ['r', 'u', 'e'] rest
  else if c = 'f' then scanWord ['a', 'l', 's', 'e'] rest
  else if c = '"' then skipChars rest
  else if c = '-' then skipUnsigned rest
  else if c.isDigit then skipUnsigned (c :: rest)
  else .error .malformed

/-- A bracket that is still open. -/
inductive Bracket where
  | array
  | object
  deriving DecidableEq

/-- The character that closes a bracket. -/
def Bracket.closing : Bracket → Char
  | .array => ']'
  | .object => '}'

/-- Passes over what stands between the items of an open bracket up to the next value: a name and
its colon in an object. -/
def skipName (bracket : Bracket) (cs : List Char) : Except Misread (List Char) :=
  match bracket with
  | .array => .ok cs
  | .object =>
    match skipBlanks cs with
    | [] => .error .ended
    | c :: rest =>
      if c = '"' then do
        let rest ← skipChars rest
        scanColon rest
      else .error .malformed

/-- How far passing over a value has come. -/
inductive Place where
  /-- In front of a value. -/
  | value
  /-- After an opening bracket. -/
  | opened
  /-- After a value. -/
  | after

/-- Passes over what is left of a value, given the brackets still open, innermost first. -/
def skipFrom : Nat → Place → List Bracket → List Char → Except Misread (List Char)
  | 0, _, _, _ => .error .malformed
  | steps + 1, .value, brackets, cs =>
    match skipBlanks cs with
    | [] => .error .ended
    | c :: rest =>
      if c = '[' then skipFrom steps .opened (.array :: brackets) rest
      else if c = '{' then skipFrom steps .opened (.object :: brackets) rest
      else do
        let rest ← skipPlain c rest
        skipFrom steps .after brackets rest
  | _ + 1, .opened, [], _ => .error .malformed
  | steps + 1, .opened, bracket :: brackets, cs =>
    match skipBlanks cs with
    | [] => .error .ended
    | c :: rest =>
      if c = bracket.closing then skipFrom steps .after brackets rest
      else do
        let rest ← skipName bracket (c :: rest)
        skipFrom steps .value (bracket :: brackets) rest
  | _ + 1, .after, [], cs => .ok cs
  | steps + 1, .after, bracket :: brackets, cs =>
    match skipBlanks cs with
    | [] => .error .ended
    | c :: rest =>
      if c = bracket.closing then skipFrom steps .after brackets rest
      else if c = ',' then do
        let rest ← skipName bracket rest
        skipFrom steps .value (bracket :: brackets) rest
      else .error .malformed

/-- Passes over a value. Two steps for each character suffice. -/
def skipValue (cs : List Char) : Except Misread (List Char) :=
  skipFrom (2 * cs.length + 2) .value [] cs

end Inventory.Json
