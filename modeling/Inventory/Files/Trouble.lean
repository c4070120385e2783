import Inventory.Outline

/-!
# Troubles with files

Why a file could not be read or written. Most causes come from the system and have a number, two
are found before the system is asked or after it has answered.
-/

namespace Inventory.Files

/-- Why a file could not be used. -/
inductive Trouble where
  | missing
  | alreadyThere
  | notFolder
  | isFolder
  | nameTooLong
  /-- The path holds a zero byte. -/
  | zeroByte
  /-- The bytes of the file are no UTF-8. -/
  | notText
  deriving DecidableEq

namespace Trouble

/-- The number of the cause, if the system gave it. -/
def code? : Trouble → Option Nat
  | missing => some 2
  | alreadyThere => some 17
  | notFolder => some 20
  | isFolder => some 21
  | nameTooLong => some 36
  | zeroByte => none
  | notText => none

/-- The kind of the cause. -/
def kind : Trouble → String
  | missing => "NotFound"
  | alreadyThere => "AlreadyExists"
  | notFolder => "NotADirectory"
  | isFolder => "IsADirectory"
  | nameTooLong => "InvalidFilename"
  | zeroByte => "InvalidInput"
  | notText => "InvalidData"

/-- The cause in words, without its number. -/
def reason : Trouble → String
  | missing => "No such file or directory"
  | alreadyThere => "File exists"
  | notFolder => "Not a directory"
  | isFolder => "Is a directory"
  | nameTooLong => "File name too long"
  | zeroByte => "file name contained an unexpected NUL byte"
  | notText => "stream did not contain valid UTF-8"

/-- The cause in words, with its number. -/
def wording (t : Trouble) : String :=
  match t.code? with
  | some code => t.reason ++ " (os error " ++ toString code ++ ")"
  | none => t.reason

/-- How a trouble is shown. -/
def outline (t : Trouble) : Outline :=
  match t.code? with
  | some code =>
    .fields "Os" [("code", .atom (toString code)), ("kind", .atom t.kind),
      ("message", .text t.reason)]
  | none => .fields "Error" [("kind", .atom t.kind), ("message", .text t.reason)]

end Trouble

end Inventory.Files
