import Inventory.Text.Split

/-!
# Paths

A path names a file by steps from the root or from the working folder. Steps are separated by
slashes; empty steps and points say nothing, two points go up. Joining a path that starts at the
root gives that path.
-/

namespace Inventory.Files

/-- One step of a path. -/
inductive Step where
  | up
  | name (n : String)
  deriving DecidableEq

/-- What stands after the last step of a path. -/
inductive Tail where
  | nothing
  /-- A slash, so that the path names a folder. -/
  | slash
  /-- A slash and a point. -/
  | point
  deriving DecidableEq

/-- A path, taken apart. -/
structure Path where
  /-- The path starts at the root. -/
  rooted : Bool
  steps : List Step
  tail : Tail
  deriving DecidableEq

/-- The step that a part stands for, if it stands for one. -/
def Step.ofPart? (part : List Char) : Option Step :=
  if part = [] ∨ part = ['.'] then none
  else if part = ['.', '.'] then some .up
  else some (.name (String.ofList part))

namespace Path

/-- What the parts of a path end with. -/
def tailOf (parts : List (List Char)) : Tail :=
  match parts.reverse.dropWhile (· = []) with
  | ['.'] :: _ => .point
  | _ => if parts.getLast? = some [] then .slash else .nothing

/-- A path, taken apart. -/
def parse (text : String) : Path :=
  let parts := Text.split (· == '/') text.toList
  { rooted := text.toList.head? = some '/'
    steps := parts.filterMap Step.ofPart?
    tail := tailOf parts }

/-- The name of the file, if the last step is a name. -/
def fileName? (p : Path) : Option String :=
  match p.steps.getLast? with
  | some (.name n) => some n
  | _ => none

/-- What stands after the last point of a name; nothing if its only point comes first. -/
def extensionOf? (name : List Char) : Option (List Char) :=
  let after := (name.reverse.takeWhile (· ≠ '.')).reverse
  match (name.reverse.dropWhile (· ≠ '.')).reverse with
  | [] => none
  | ['.'] => none
  | _ => some after

/-- The extension of the name of the file. -/
def extension? (p : Path) : Option String :=
  (p.fileName?.bind fun n => extensionOf? n.toList).map String.ofList

/-- The path of the folder that a path ends in. -/
def parent (p : Path) : Path := { p with steps := p.steps.dropLast, tail := .nothing }

/-- A text, given from its end, without the slashes and points that say nothing there. -/
def bareEnd : List Char → List Char
  | '/' :: rest => bareEnd rest
  | '.' :: '/' :: rest => bareEnd rest
  | cs => cs

/-- The text of the path of the folder that a path ends in: what stands in front of its last
name. -/
def parentText (text : String) : String :=
  String.ofList (bareEnd ((bareEnd text.toList.reverse).dropWhile (· ≠ '/'))).reverse

/-- A path that starts at the root stands for itself, another goes on from a folder. -/
def join (folder path : String) : String :=
  match path.toList with
  | '/' :: _ => path
  | _ => folder ++ "/" ++ path

end Path

end Inventory.Files
