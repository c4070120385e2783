import Inventory.Event
import Inventory.Predicate.Clause
import Inventory.Settings.Placement

/-!
# From query parameters to filters

The settings of the query interface say where each parameter is kept for each type of record;
from them a request becomes a filter with one grouping for each parameter that is known. Main
statement: `filterFrom_cons` (each parameter adds a grouping or an event).
-/

namespace Inventory.Settings

open Inventory.Predicate (Clause Filter Grouping)

/-- The settings of the query interface. -/
structure Queries where
  /-- The context fields that each type of record must have. -/
  contextFields : Table (List String) := .empty
  /-- The page size of a request that sets none. -/
  defaultLimit : Int64 := 0
  /-- The fields that a listing shows. -/
  listFields : List String := []
  /-- Where each parameter is kept, by type of record. -/
  params : Table (Table Placement) := .empty
  deriving DecidableEq, Inhabited

namespace Queries

/-- Where a parameter is kept for a type of record. -/
def placement? (q : Queries) (param recordType : String) : Option Placement :=
  (q.params.find? param).bind fun byType => byType.find? recordType

/-- The clause that asks for some values of a parameter, if the parameter has a place for this
type of record and any values are asked for. -/
def clause? (q : Queries) (param recordType : String) (values : List String) : Option Clause :=
  match values, (q.placement? param recordType).map (·.keys) with
  | [], _ => none
  | _, none => none
  | _, some [] => none
  | [v], some keys => some { keys, operator := "=", values := [v] }
  | values, some keys => some { keys, operator := "IN", values }

/-- The groupings for some parameters in a row, and an event for each that is not known. -/
def filterFrom (q : Queries) (recordType : String) :
    List (String × List String) → List Grouping × List Event
  | [] => ([], [])
  | (param, values) :: rest =>
    let (groups, events) := q.filterFrom recordType rest
    match q.clause? param recordType values with
    | some c => (.ofClause c :: groups, events)
    | none => (groups, .paramNotMapped param recordType :: events)

/-- Each parameter adds a grouping or an event. -/
theorem filterFrom_cons (q : Queries) (recordType param : String) (values : List String)
    (rest : List (String × List String)) :
    q.filterFrom recordType ((param, values) :: rest) =
      match q.clause? param recordType values with
      | some c =>
        (.ofClause c :: (q.filterFrom recordType rest).1, (q.filterFrom recordType rest).2)
      | none =>
        ((q.filterFrom recordType rest).1,
          .paramNotMapped param recordType :: (q.filterFrom recordType rest).2) := rfl

/-- The filter for the parameters of a request, in the order of their names, and the events that
making it causes. -/
def filter (q : Queries) (recordType : String) (params : Table (List String)) :
    Filter × List Event :=
  let (groups, events) := q.filterFrom recordType params.entries
  ({ groups }, events)

/-- The settings in JSON. -/
def schema : Json.Schema Queries := .record "ApiV0Config" {} [
  .of "context_fields" (.table (.list .text)) (·.contextFields)
    fun q contextFields => { q with contextFields },
  .of "default_limit" .int64 (·.defaultLimit) fun q defaultLimit => { q with defaultLimit },
  .of "list_fields" (.list .text) (·.listFields) fun q listFields => { q with listFields },
  .of "query_params" (.table (.table Placement.schema)) (·.params)
    fun q params => { q with params }]

end Queries

end Inventory.Settings
