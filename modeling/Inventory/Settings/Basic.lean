import Inventory.Settings.Queries

/-!
# Settings

Everything a server needs to run: its own address and passwords, its database, its query
interface.
-/

namespace Inventory

namespace Settings

/-- The settings of the server itself. -/
structure Server where
  host : String := ""
  port : UInt16 := 0
  /-- The password that writers must give. -/
  pass : String := ""
  url : String := ""
  debug : Bool := false
  /-- The name under which the server reports its performance. -/
  reportName : String := ""
  /-- The key with which the server reports its performance. -/
  reportKey : String := ""
  deriving DecidableEq, Inhabited

/-- Server settings in JSON. -/
def Server.schema : Json.Schema Server := .record "ServerConfig" {} [
  .of "host" .text (·.host) fun s host => { s with host },
  .of "port" .uint16 (·.port) fun s port => { s with port },
  .of "pass" .text (·.pass) fun s pass => { s with pass },
  .of "url" .text (·.url) fun s url => { s with url },
  .of "debug" .flag (·.debug) fun s debug => { s with debug },
  .shownAs (.of "newrelic_appname" .text (·.reportName) fun s reportName => { s with reportName })
    "newrelic_app_name",
  .shownAs (.of "newrelic_license" .text (·.reportKey) fun s reportKey => { s with reportKey })
    "newrelic_license_key"]

/-- How the database is reached. -/
structure Database where
  host : String := ""
  port : UInt16 := 0
  db : String := ""
  user : String := ""
  pass : String := ""
  /-- Parameters of the connection, each a name and a value. -/
  params : List String := []
  deriving DecidableEq, Inhabited

namespace Database

/-- The connection as one text: who, over what, to which schema, with which parameters. -/
def address (d : Database) : String :=
  d.user ++ ":" ++ d.pass ++ "@tcp(" ++ d.host ++ ":"
    ++ String.ofList (Nat.toDigits 10 d.port.toNat) ++ ")/" ++ d.db
    ++ (if d.params.isEmpty then "" else "?" ++ "&".intercalate d.params)

/-- Database settings in JSON. -/
def schema : Json.Schema Database := .record "MariadbConfig" {} [
  .of "host" .text (·.host) fun d host => { d with host },
  .of "port" .uint16 (·.port) fun d port => { d with port },
  .of "db" .text (·.db) fun d db => { d with db },
  .of "user" .text (·.user) fun d user => { d with user },
  .of "pass" .text (·.pass) fun d pass => { d with pass },
  .of "params" (.list .text) (·.params) fun d params => { d with params }]

end Database

/-- The settings of the interface, by version. -/
structure Api where
  /-- The version in use. -/
  version : String := ""
  /-- The settings of version 0. -/
  queries : Queries := {}
  deriving DecidableEq, Inhabited

/-- Interface settings in JSON. -/
def Api.schema : Json.Schema Api := .record "ApiConfig" {} [
  .of "version" .text (·.version) fun a version => { a with version },
  .of "v0" Queries.schema (·.queries) fun a queries => { a with queries }]

end Settings

/-- All settings of a deployment. -/
structure Settings where
  server : Settings.Server := {}
  database : Settings.Database := {}
  api : Settings.Api := {}
  deriving DecidableEq, Inhabited

/-- Settings in JSON. -/
def Settings.schema : Json.Schema Settings := .record "GlobalConfig" {} [
  .of "hostdb" Settings.Server.schema (·.server) fun s server => { s with server },
  .of "mariadb" Settings.Database.schema (·.database) fun s database => { s with database },
  .of "api" Settings.Api.schema (·.api) fun s api => { s with api }]

end Inventory
