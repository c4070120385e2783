import Inventory.Json.Schema

/-!
# Inventory records

A record describes one thing of the inventory: what it is, where it was found, and any data that
was collected about it. Records of one type that were collected together make a batch. What is empty
is left out of a record, but not of a batch, its committer apart.
-/

namespace Inventory

open Json (Value)

/-- One thing of the inventory. -/
structure Record where
  /-- Given by the store when empty. -/
  id : String := ""
  recordType : String := ""
  hostname : String := ""
  ip : String := ""
  timestamp : String := ""
  /-- Who sent the record. -/
  committer : String := ""
  /-- The circumstances of the collection, by name. -/
  context : Table Value := .empty
  /-- What was collected. -/
  data : Value := .null
  /-- Computed by the store. -/
  hash : String := ""
  deriving Inhabited

namespace Record

/-- Records in JSON; every field that is empty is left out. -/
def schema : Json.Schema Record := .record "Record" {} [
  .omittedWhen (.of "id" .text (·.id) fun r id => { r with id }) (·.id.isEmpty),
  .omittedWhen
    (.shownAs (.of "type" .text (·.recordType) fun r recordType => { r with recordType })
      "record_type")
    (·.recordType.isEmpty),
  .omittedWhen (.of "hostname" .text (·.hostname) fun r hostname => { r with hostname })
    (·.hostname.isEmpty),
  .omittedWhen (.of "ip" .text (·.ip) fun r ip => { r with ip }) (·.ip.isEmpty),
  .omittedWhen (.of "timestamp" .text (·.timestamp) fun r timestamp => { r with timestamp })
    (·.timestamp.isEmpty),
  .omittedWhen (.of "committer" .text (·.committer) fun r committer => { r with committer })
    (·.committer.isEmpty),
  .omittedWhen (.of "context" (.table .value) (·.context) fun r context => { r with context })
    (·.context.isEmpty),
  .omittedWhen (.of "data" .value (·.data) fun r data => { r with data }) (·.data.isNull),
  .omittedWhen (.of "hash" .text (·.hash) fun r hash => { r with hash }) (·.hash.isEmpty)]

/-- Equality of records, floats compared as numbers. -/
def same (r s : Record) : Bool :=
  r.id == s.id && r.recordType == s.recordType && r.hostname == s.hostname && r.ip == s.ip
    && r.timestamp == s.timestamp && r.committer == s.committer
    && r.context.same Value.same s.context && r.data.same s.data && r.hash == s.hash

end Record

/-- Records of one type that were collected together. -/
structure Batch where
  recordType : String := ""
  timestamp : String := ""
  /-- The circumstances that all records share. -/
  context : Table Value := .empty
  committer : String := ""
  records : List Record := []
  deriving Inhabited

namespace Batch

/-- Batches in JSON; only an empty committer is left out. -/
def schema : Json.Schema Batch := .record "RecordSet" {} [
  .shownAs (.of "type" .text (·.recordType) fun b recordType => { b with recordType })
    "record_type",
  .of "timestamp" .text (·.timestamp) fun b timestamp => { b with timestamp },
  .of "context" (.table .value) (·.context) fun b context => { b with context },
  .omittedWhen (.of "committer" .text (·.committer) fun b committer => { b with committer })
    (·.committer.isEmpty),
  .of "records" (.list Record.schema) (·.records) fun b records => { b with records }]

/-- Equality of batches, floats compared as numbers. -/
def same (a b : Batch) : Bool :=
  a.recordType == b.recordType && a.timestamp == b.timestamp
    && a.context.same Value.same b.context && a.committer == b.committer
    && a.records.length == b.records.length
    && (a.records.zip b.records).all fun p => p.1.same p.2

end Batch

end Inventory
