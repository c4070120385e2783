import Inventory.Proofs.Predicate.Placeholders
import Inventory.Settings.Queries

/-!
# From a request to its condition

A parameter of a request is recognised when it has a place for the type of record and values are
asked for. The filter of a request has one condition for each parameter that is recognised, and
each of the others is reported. Main statements: `clause?_eq` (which clause a parameter gives),
`filterFrom_eq` (what parameters in a row give) and `filter_condition`.
-/

namespace Inventory.Settings

open Inventory.Predicate (Clause Condition Filter Grouping bindings_pieces)

/-! ## The places of a parameter -/

/-- Where the value of a parameter may be kept. -/
inductive Place where
  | table
  | context
  | data
  deriving DecidableEq

namespace Placement

/-- What is set for a place: a column or a path, empty when the place is not used. -/
def entry (p : Placement) : Place → String
  | .table => p.table
  | .context => p.context
  | .data => p.data

/-- The expression of SQL for a place. -/
def expression (p : Placement) : Place → String
  | .table => p.table
  | .context => extract "context" p.context
  | .data => extract "data" p.data

/-- The places that are used, in the order in which they are asked. -/
def places (p : Placement) : List Place :=
  [.table, .context, .data].filter fun place => p.entry place ≠ ""

/-- The keys of a placement are the expressions of its places. -/
theorem keys_eq (p : Placement) : p.keys = p.places.map p.expression := by
  have hkey : ∀ (place : Place), ([place].filter fun l => p.entry l ≠ "").map p.expression
      = if (p.entry place).isEmpty then [] else [p.expression place] := by
    intro place
    by_cases h : p.entry place = ""
    · simp [h]
    · simp [h]
  have hplaces : p.places = ([Place.table].filter fun l => p.entry l ≠ "")
      ++ ([Place.context].filter fun l => p.entry l ≠ "")
      ++ ([Place.data].filter fun l => p.entry l ≠ "") := by
    rw [← List.filter_append, ← List.filter_append]
    rfl
  rw [hplaces, List.map_append, List.map_append, hkey, hkey, hkey]
  rfl

end Placement

namespace Queries

/-- The expressions that a parameter is compared by, none when it is not mapped. -/
def expressions (q : Queries) (recordType param : String) : List String :=
  match q.placement? param recordType with
  | none => []
  | some p => p.places.map p.expression

/-- A parameter with its values is recognised when it is mapped to a place and there are values. -/
def Recognises (q : Queries) (recordType : String) (e : String × List String) : Prop :=
  (∃ p ∈ q.placement? e.1 recordType, p.places ≠ []) ∧ e.2 ≠ []

instance (q : Queries) (recordType : String) : DecidablePred (q.Recognises recordType) :=
  fun e => inferInstanceAs (Decidable ((∃ p ∈ q.placement? e.1 recordType, _) ∧ _))

/-- The parameters of a request that are recognised. -/
def recognised (q : Queries) (recordType : String) (params : Table (List String)) :
    List (String × List String) :=
  params.entries.filter fun e => q.Recognises recordType e

theorem recognises_iff {q : Queries} {recordType : String} {e : String × List String} :
    q.Recognises recordType e ↔ q.expressions recordType e.1 ≠ [] ∧ e.2 ≠ [] := by
  unfold Recognises expressions
  split
  · next h => simp [h]
  · next p h => simp [h]

/-! ## The clause of a parameter -/

/-- The clause that compares keys with values: equality for one value, a list for several. -/
def asking (keys values : List String) : Clause :=
  { keys, operator := if values.length = 1 then "=" else "IN", values }

/-- A parameter gives a clause exactly when it is recognised. -/
theorem clause?_eq (q : Queries) (recordType : String) (e : String × List String) :
    q.clause? e.1 recordType e.2 =
      if q.Recognises recordType e then some (asking (q.expressions recordType e.1) e.2)
      else none := by
  obtain ⟨param, values⟩ := e
  simp only [recognises_iff]
  unfold clause? expressions
  cases q.placement? param recordType with
  | none => cases values <;> simp
  | some p =>
    simp only [Option.map_some, Placement.keys_eq]
    match values, p.places.map p.expression with
    | [], _ => simp
    | _ :: _, [] => simp
    | [v], k :: ks => simp [asking]
    | v :: w :: vs, k :: ks => simp [asking]

/-- A clause with keys and values is sound. -/
theorem defect?_asking {keys values : List String} (hkeys : keys ≠ []) (hvalues : values ≠ []) :
    (asking keys values).defect? = none := by
  rw [Clause.defect?_eq_none_iff]
  refine ⟨hkeys, fun hnil => absurd hnil hvalues, fun hlt => ?_⟩
  have hin : (asking keys values).operator = "IN" := if_neg (Nat.ne_of_gt hlt)
  rw [Clause.takesList, hin]
  decide

/-- Parameters in a row give a grouping for each that is recognised and an event for each other. -/
theorem filterFrom_eq (q : Queries) (recordType : String) :
    ∀ entries : List (String × List String),
      q.filterFrom recordType entries =
        ((entries.filter fun e => q.Recognises recordType e).map fun e =>
            .ofClause (asking (q.expressions recordType e.1) e.2),
          (entries.filter fun e => ¬ q.Recognises recordType e).map fun e =>
            .paramNotMapped e.1 recordType)
  | [] => rfl
  | (param, values) :: rest => by
    rw [filterFrom_cons, filterFrom_eq q recordType rest,
      q.clause?_eq recordType (param, values)]
    by_cases h : q.Recognises recordType (param, values)
    · rw [if_pos h, List.filter_cons_of_pos (by simpa using h),
        List.filter_cons_of_neg (by simpa using h)]
      rfl
    · rw [if_neg h, List.filter_cons_of_neg (by simpa using h),
        List.filter_cons_of_pos (by simpa using h)]
      rfl

/-! ## The text of a condition -/

/-- The comparison of an expression with so many values. -/
def comparisonText (count : Nat) (expression : String) : String :=
  if count = 1 then expression ++ " = ? "
  else expression ++ " IN (" ++ ",".intercalate (List.replicate count "?") ++ ") "

/-- A key gives its comparison. -/
theorem sql_keyPieces {values : List String} (h : values ≠ []) (keys : List String) (k : String) :
    (Condition.ofPieces ((asking keys values).keyPieces k)).sql
      = comparisonText values.length k := by
  match values with
  | [] => exact absurd rfl h
  | [v] =>
    show k ++ " " ++ ("= " ++ "? ") = k ++ " = ? "
    rw [String.append_assoc]
    rfl
  | v :: w :: vs =>
    -- The blanks come from three pieces here and from one literal in the text.
    have hin : (asking keys (v :: w :: vs)).comparator = "IN" := by
      simp [asking, Clause.comparator]
    have hblank : " IN (" = " " ++ ("IN" ++ " " ++ "(") := rfl
    rw [comparisonText, if_neg (by simp), Clause.keyPieces, hin, hblank]
    show k ++ " " ++ ("IN" ++ " " ++ ("(" ++ ",".intercalate _ ++ ") " ++ "")) = _
    simp only [String.append_assoc, String.append_empty]
    rfl

/-- A parameter that is recognised has expressions and values. -/
theorem expressions_ne_nil {q : Queries} {recordType : String} {params : Table (List String)} :
    ∀ e ∈ q.recognised recordType params, q.expressions recordType e.1 ≠ [] ∧ e.2 ≠ [] := by
  intro e he
  exact recognises_iff.1 (by simpa using (List.mem_filter.1 he).2)

/-- The filter of a request asks for the parameters that are recognised. -/
theorem filter_groups (q : Queries) (recordType : String) (params : Table (List String)) :
    (q.filter recordType params).1 =
      { groups := (q.recognised recordType params).map fun e =>
          .ofClause (asking (q.expressions recordType e.1) e.2) } := by
  rw [filter, filterFrom_eq]
  rfl

/-- Whatever a request asks for, its filter has no flaw. -/
theorem flaw?_filter (q : Queries) (recordType : String) (params : Table (List String)) :
    (q.filter recordType params).1.flaw? = none := by
  rw [Filter.flaw?_eq_none_iff, filter_groups]
  intro g hg c hc
  obtain ⟨e, he, rfl⟩ := List.mem_map.1 hg
  obtain ⟨hexpressions, hvalues⟩ := expressions_ne_nil e he
  rw [List.mem_singleton.1 hc]
  exact defect?_asking hexpressions hvalues

/-- Names come in order: `flavor` before the two places of `host`; `zone` has none. -/
example :
    let byType (p : Placement) : Table Placement := .ofList [("vm", p)]
    let host := byType { table := "host", data := "name" }
    let flavor := byType { table := "fl" }
    let q : Queries := { params := .ofList [("host", host), ("flavor", flavor)] }
    let request := q.filter "vm"
      (.ofList [("zone", ["z"]), ("host", ["h"]), ("flavor", ["a", "b"])])
    request.1.condition.toOption.map (·.sql)
        = some ("WHERE fl IN (?,?) AND ( host = ? OR "
          ++ "JSON_UNQUOTE(JSON_EXTRACT(data, '$.name')) = ? )") ∧
      request.2 = [.paramNotMapped "zone" "vm"] := by
  decide +kernel

end Queries

end Inventory.Settings
