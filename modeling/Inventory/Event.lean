/-!
# Events

What the library reports of its work while it works. Each event is a cause with its particulars;
level, message and named fields are read off it.
-/

namespace Inventory

/-- How much an event matters. -/
inductive Level where
  | debug
  | info
  | warn
  deriving DecidableEq

/-- The name of a level. -/
def Level.name : Level → String
  | .debug => "DEBUG"
  | .info => "INFO"
  | .warn => "WARN"

/-- Something that happened. -/
inductive Event where
  /-- A parameter of a query has no place for this type of record. -/
  | paramNotMapped (param recordType : String)
  | loadingSettings (path : String)
  | savingRecords (count : Nat) (path : String)
  | savedRecords (count : Nat) (path : String)
  /-- A request is about to be made, to the address as it was put together. -/
  | requesting (method url : String)
  | requestFailed (status : Nat) (body : String)
  /-- No record is sent without a password. -/
  | recordWithheld (label : String)
  /-- No batch is sent without a password. -/
  | batchWithheld (query : String)
  | recordSent (recordType label : String)
  | sendingBatch (count : Nat) (recordType : String)
  | sentBatch (count : Nat) (recordType : String)
  deriving DecidableEq

namespace Event

/-- How much the event matters. -/
def level : Event → Level
  | paramNotMapped .. => .debug
  | loadingSettings .. => .debug
  | savingRecords .. => .info
  | savedRecords .. => .info
  | requesting .. => .debug
  | requestFailed .. => .warn
  | recordWithheld .. => .warn
  | batchWithheld .. => .warn
  | recordSent .. => .info
  | sendingBatch .. => .info
  | sentBatch .. => .info

/-- What happened, in words. -/
def message : Event → String
  | paramNotMapped .. => "query parameter not mapped"
  | loadingSettings .. => "loading configuration"
  | savingRecords .. => "saving records"
  | savedRecords .. => "saved records"
  | requesting .. => "HostDB request"
  | requestFailed .. => "HostDB request failed"
  | recordWithheld .. => "no password, canceling request"
  | batchWithheld .. => "no password, canceling request"
  | recordSent .. => "1 record sent to HostDB"
  | sendingBatch .. => "sending records to HostDB"
  | sentBatch .. => "sent records to HostDB"

/-- The particulars by name. -/
def fields : Event → List (String × String)
  | paramNotMapped param recordType => [("param", param), ("record_type", recordType)]
  | loadingSettings path => [("path", path)]
  | savingRecords count path => [("count", toString count), ("path", path)]
  | savedRecords count path => [("count", toString count), ("path", path)]
  | requesting method url => [("method", method), ("url", url)]
  | requestFailed status body => [("status", toString status), ("body", body)]
  | recordWithheld label => [("label", label)]
  | batchWithheld query => [("query", query)]
  | recordSent recordType label => [("record_type", recordType), ("label", label)]
  | sendingBatch count recordType => [("count", toString count), ("record_type", recordType)]
  | sentBatch count recordType => [("count", toString count), ("record_type", recordType)]

end Event

end Inventory
