import Inventory.Record

/-!
# Answers of the store

The documents that the store answers with, one type for each request.
-/

namespace Inventory.Answer

/-- A request failed: with which status and why. Both must be given. -/
structure Failure where
  code : UInt16 := 0
  message : String := ""
  deriving DecidableEq, Inhabited

namespace Failure

/-- A failure in words. -/
def wording (f : Failure) : String :=
  String.ofList (Nat.toDigits 10 f.code.toNat) ++ ": " ++ f.message

/-- A failure in JSON. -/
def schema : Json.Schema Failure := .record "ErrorResponse" {} [
  .mandatory (.of "code" .uint16 (·.code) fun f code => { f with code }),
  .mandatory (.of "message" .text (·.message) fun f message => { f with message })]

end Failure

/-- A request failed, with a reason only. -/
structure Complaint where
  error : String := ""
  deriving DecidableEq, Inhabited

/-- A complaint in JSON. -/
def Complaint.schema : Json.Schema Complaint := .record "GenericError" {} [
  .of "error" .text (·.error) fun c error => { c with error }]

/-- The different values of a field. -/
structure Catalog where
  count : Int64 := 0
  queryTime : String := ""
  catalog : List String := []
  deriving DecidableEq, Inhabited

/-- A catalog in JSON. -/
def Catalog.schema : Json.Schema Catalog := .record "GetCatalogResponse" {} [
  .of "count" .int64 (·.count) fun c count => { c with count },
  .of "query_time" .text (·.queryTime) fun c queryTime => { c with queryTime },
  .of "catalog" (.list .text) (·.catalog) fun c catalog => { c with catalog }]

/-- The different values of a field, each with the number of its records. -/
structure Census where
  count : Int64 := 0
  queryTime : String := ""
  catalog : Table Int64 := .empty
  deriving DecidableEq, Inhabited

/-- A census in JSON. -/
def Census.schema : Json.Schema Census := .record "GetCatalogQuantityResponse" {} [
  .of "count" .int64 (·.count) fun c count => { c with count },
  .of "query_time" .text (·.queryTime) fun c queryTime => { c with queryTime },
  .of "catalog" (.table .int64) (·.catalog) fun c catalog => { c with catalog }]

/-- How the store and its database are. -/
structure Health where
  app : String := ""
  db : String := ""
  deriving DecidableEq, Inhabited

/-- Health in JSON. -/
def Health.schema : Json.Schema Health := .record "GetHealthResponse" {} [
  .of "app" .text (·.app) fun h app => { h with app },
  .of "db" .text (·.db) fun h db => { h with db }]

/-- The records that a query found, by their ids. -/
structure Records where
  count : Int64 := 0
  queryTime : String := ""
  records : Table Record := .empty
  deriving Inhabited

namespace Records

/-- Found records in JSON. -/
def schema : Json.Schema Records := .record "GetRecordsResponse" {} [
  .of "count" .int64 (·.count) fun r count => { r with count },
  .of "query_time" .text (·.queryTime) fun r queryTime => { r with queryTime },
  .of "records" (.table Record.schema) (·.records) fun r records => { r with records }]

/-- Equality of answers, floats compared as numbers. -/
def same (r s : Records) : Bool :=
  r.count == s.count && r.queryTime == s.queryTime && r.records.same Record.same s.records

end Records

/-- What the store holds. -/
structure Statistics where
  hostname : String := ""
  totalRecords : Int64 := 0
  newestRecord : String := ""
  oldestRecord : String := ""
  /-- When each committer was last heard of. -/
  lastSeen : Table String := .empty
  deriving DecidableEq, Inhabited

/-- Statistics in JSON. -/
def Statistics.schema : Json.Schema Statistics := .record "GetStatsResponse" {} [
  .of "hostname" .text (·.hostname) fun s hostname => { s with hostname },
  .of "total_records" .int64 (·.totalRecords) fun s totalRecords => { s with totalRecords },
  .of "newest_record" .text (·.newestRecord) fun s newestRecord => { s with newestRecord },
  .of "oldest_record" .text (·.oldestRecord) fun s oldestRecord => { s with oldestRecord },
  .shownAs (.of "lastseen_collectors" (.table .text) (·.lastSeen)
    fun s lastSeen => { s with lastSeen }) "last_seen_collectors"]

/-- Which program the store runs. -/
structure ServerBuild where
  version : String := ""
  apiVersion : String := ""
  commit : String := ""
  date : String := ""
  buildUrl : String := ""
  /-- What the program was built with. -/
  toolchain : String := ""
  deriving DecidableEq, Inhabited

/-- A build in JSON. -/
def ServerBuild.schema : Json.Schema ServerBuild := .record "ServerVersion" {} [
  .of "version" .text (·.version) fun b version => { b with version },
  .of "api_version" .text (·.apiVersion) fun b apiVersion => { b with apiVersion },
  .of "commit" .text (·.commit) fun b commit => { b with commit },
  .of "date" .text (·.date) fun b date => { b with date },
  .of "build_url" .text (·.buildUrl) fun b buildUrl => { b with buildUrl },
  .shownAs (.of "go_version" .text (·.toolchain) fun b toolchain => { b with toolchain })
    "toolchain_version"]

/-- Which database the store uses. -/
structure DatabaseBuild where
  version : String := ""
  deriving DecidableEq, Inhabited

/-- A database version in JSON. -/
def DatabaseBuild.schema : Json.Schema DatabaseBuild := .record "MariadbVersion" {} [
  .of "version" .text (·.version) fun b version => { b with version }]

/-- Which programs the store is made of. -/
structure Versions where
  app : ServerBuild := {}
  db : DatabaseBuild := {}
  deriving DecidableEq, Inhabited

/-- Versions in JSON. -/
def Versions.schema : Json.Schema Versions := .record "GetVersionResponse" {} [
  .of "app" ServerBuild.schema (·.app) fun v app => { v with app },
  .of "db" DatabaseBuild.schema (·.db) fun v db => { v with db }]

/-- What became of a batch. -/
structure BatchReceipt where
  ok : Bool := false
  /-- Why the batch was refused, or what was done with it. -/
  error : String := ""
  deriving DecidableEq, Inhabited

/-- A receipt in JSON; an empty explanation is left out. -/
def BatchReceipt.schema : Json.Schema BatchReceipt := .record "PostRecordsResponse" {} [
  .of "ok" .flag (·.ok) fun r ok => { r with ok },
  .omittedWhen (.of "error" .text (·.error) fun r error => { r with error }) (·.error.isEmpty)]

/-- What became of a record. -/
structure RecordReceipt where
  /-- The id under which the record is kept. -/
  id : String := ""
  ok : Bool := false
  deriving DecidableEq, Inhabited

/-- A receipt in JSON. -/
def RecordReceipt.schema : Json.Schema RecordReceipt := .record "PutRecordResponse" {} [
  .of "id" .text (·.id) fun r id => { r with id },
  .of "ok" .flag (·.ok) fun r ok => { r with ok }]

end Inventory.Answer
