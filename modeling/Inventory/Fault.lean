import Inventory.Files.Trouble
import Inventory.Json.Misread
import Inventory.Predicate.Flaw

/-!
# Faults

Why an operation of the library failed. A fault keeps its cause and is put into words where it is
shown. The flaw of a filter speaks for itself.
-/

namespace Inventory

/-- Why an operation failed. -/
inductive Fault where
  /-- A filter has a flaw. -/
  | predicate (flaw : Predicate.Flaw)
  /-- A file could not be read or written. -/
  | file (trouble : Files.Trouble)
  /-- A document could not be read. -/
  | json (misread : Json.Misread)
  /-- A request could not be made, or no answer came. -/
  | request
  /-- The path for a batch has another extension than `json`. -/
  | savePath (path : String)
  /-- The address of the store is no URL. -/
  | address (text : String)
  /-- The store answered with a status that is not success. -/
  | http (status : Nat) (body : String)
  /-- The store understood the request and refused it. -/
  | rejected (reason : String)
  /-- The settings cannot be used. -/
  | settings (reason : String)
  deriving DecidableEq

namespace Fault

/-- What is wrong with a document, in words. -/
def readMessage : Json.Misread → String
  | .malformed => "the text is malformed"
  | .ended => "the text ends too early"
  | .mismatch cause => cause.message

/-- The fault in words. -/
def message : Fault → String
  | predicate flaw => flaw.message
  | file trouble => "I/O error: " ++ trouble.wording
  | json misread => "JSON error: " ++ readMessage misread
  | request => "request failed"
  | savePath path => "provided file path must end in .json: " ++ path
  | address text => "invalid HostDB URL '" ++ text ++ "'"
  | http status body => "HostDB responded " ++ toString status ++ ": " ++ body
  | rejected reason => "HostDB rejected the request: " ++ reason
  | settings reason => "configuration error: " ++ reason

/-- The deeper cause in words, where there is one. -/
def source? : Fault → Option String
  | file trouble => some trouble.wording
  | json misread => some (readMessage misread)
  | _ => none

/-- How a fault is shown. -/
def outline : Fault → Outline
  | predicate flaw => .shell "Predicate" flaw.outline
  | file trouble => .shell "Io" trouble.outline
  | json misread => .shell "Json" (.text (readMessage misread))
  | request => .atom "Request"
  | savePath path => .shell "InvalidSavePath" (.text path)
  | address text => .shell "InvalidUrl" (.text text)
  | http status body => .fields "Http" [("status", .atom (toString status)), ("body", .text body)]
  | rejected reason => .shell "Rejected" (.text reason)
  | settings reason => .shell "Config" (.text reason)

end Fault

end Inventory
