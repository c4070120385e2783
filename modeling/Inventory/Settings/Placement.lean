import Inventory.Json.Schema

/-!
# Where a query parameter is kept

For one type of record the value of a query parameter may be kept in a column of the table, at a
path inside the context document, at a path inside the data document, or in several of these.
-/

namespace Inventory.Settings

/-- The places of one query parameter for one type of record; an empty text is no place. -/
structure Placement where
  /-- A path inside the context document. -/
  context : String := ""
  /-- A path inside the data document. -/
  data : String := ""
  /-- What people see as the name of the parameter. -/
  caption : String := ""
  /-- A column of the table. -/
  table : String := ""
  deriving DecidableEq, Inhabited

namespace Placement

/-- A path inside a literal of SQL, its quotes doubled. -/
def quotePath (cs : List Char) : List Char :=
  cs.flatMap fun c => if c = '\'' then ['\'', '\''] else [c]

/-- What stands before a path: the root of the document, and a point unless the path begins with
a point or a bracket of its own. -/
def pathStart (path : String) : String :=
  match path.toList with
  | '.' :: _ => "$"
  | '[' :: _ => "$"
  | _ => "$."

/-- The text at a path inside a document, as an expression of SQL. -/
def extract (document path : String) : String :=
  "JSON_UNQUOTE(JSON_EXTRACT(" ++ document ++ ", '" ++ pathStart path
    ++ String.ofList (quotePath path.toList) ++ "'))"

/-- The expressions for all places: column, context, data. -/
def keys (p : Placement) : List String :=
  (if p.table.isEmpty then [] else [p.table])
    ++ (if p.context.isEmpty then [] else [extract "context" p.context])
    ++ (if p.data.isEmpty then [] else [extract "data" p.data])

/-- A placement in JSON. -/
def schema : Json.Schema Placement := .record "QueryParam" {} [
  .of "context" .text (·.context) fun p context => { p with context },
  .of "data" .text (·.data) fun p data => { p with data },
  .shownAs (.of "_name" .text (·.caption) fun p caption => { p with caption }) "display_name",
  .of "table" .text (·.table) fun p table => { p with table }]

end Placement

end Inventory.Settings
