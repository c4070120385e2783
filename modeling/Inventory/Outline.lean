import Inventory.Text.Quoted

/-!
# Outlines

An outline shows a value with the names of its type and fields, for people who look into a running
program. It is laid out on one line, or on a line for each part. What is empty stays on one line
in both layouts.
-/

namespace Inventory

/-- The parts of a value as they are shown. -/
inductive Outline where
  /-- A part shown by a text of its own. -/
  | atom (shown : String)
  /-- A list of parts, under a name that may be empty. -/
  | list (name : String) (items : List Outline)
  /-- Parts under keys, under a name that may be empty. -/
  | map (name : String) (entries : List (String × Outline))
  /-- Parts under the names of fields. -/
  | fields (name : String) (entries : List (String × Outline))
  /-- One part inside a named shell. -/
  | shell (name : String) (inner : Outline)

namespace Outline

/-- A text, quoted. -/
def text (s : String) : Outline := .atom (Text.quoted s)

mutual

/-- The outline on one line. -/
def flat : Outline → String
  | .atom shown => shown
  | .list name items => name ++ "[" ++ flatItems items ++ "]"
  | .map name entries => name ++ "\x7b" ++ flatEntries entries ++ "\x7d"
  | .fields name [] => name
  | .fields name entries => name ++ " \x7b " ++ flatFields entries ++ " \x7d"
  | .shell name inner => name ++ "(" ++ inner.flat ++ ")"

/-- Items with commas between them. -/
def flatItems : List Outline → String
  | [] => ""
  | [o] => o.flat
  | o :: p :: rest => o.flat ++ ", " ++ flatItems (p :: rest)

/-- Entries under quoted keys. -/
def flatEntries : List (String × Outline) → String
  | [] => ""
  | [(k, o)] => Text.quoted k ++ ": " ++ o.flat
  | (k, o) :: e :: rest => Text.quoted k ++ ": " ++ o.flat ++ ", " ++ flatEntries (e :: rest)

/-- Entries under the names of fields. -/
def flatFields : List (String × Outline) → String
  | [] => ""
  | [(k, o)] => k ++ ": " ++ o.flat
  | (k, o) :: e :: rest => k ++ ": " ++ o.flat ++ ", " ++ flatFields (e :: rest)

end

/-- The blanks in front of a part at a level. -/
def indent (level : Nat) : String := String.ofList (List.replicate (4 * level) ' ')

mutual

/-- The outline with a line for each part, indented by four blanks for each level. -/
def tall (level : Nat) : Outline → String
  | .atom shown => shown
  | .list name [] => name ++ "[]"
  | .list name (o :: rest) =>
    name ++ "[\n" ++ tallItems (level + 1) (o :: rest) ++ indent level ++ "]"
  | .map name [] => name ++ "\x7b\x7d"
  | .map name (e :: rest) =>
    name ++ "\x7b\n" ++ tallEntries (level + 1) (e :: rest) ++ indent level ++ "\x7d"
  | .fields name [] => name
  | .fields name (e :: rest) =>
    name ++ " \x7b\n" ++ tallFields (level + 1) (e :: rest) ++ indent level ++ "\x7d"
  | .shell name inner =>
    name ++ "(\n" ++ indent (level + 1) ++ inner.tall (level + 1) ++ ",\n" ++ indent level ++ ")"

/-- Items, each on lines of its own. -/
def tallItems (level : Nat) : List Outline → String
  | [] => ""
  | o :: rest => indent level ++ o.tall level ++ ",\n" ++ tallItems level rest

/-- Entries under quoted keys, each on lines of its own. -/
def tallEntries (level : Nat) : List (String × Outline) → String
  | [] => ""
  | (k, o) :: rest =>
    indent level ++ Text.quoted k ++ ": " ++ o.tall level ++ ",\n" ++ tallEntries level rest

/-- Entries under the names of fields, each on lines of its own. -/
def tallFields (level : Nat) : List (String × Outline) → String
  | [] => ""
  | (k, o) :: rest =>
    indent level ++ k ++ ": " ++ o.tall level ++ ",\n" ++ tallFields level rest

end

end Outline

end Inventory
