import Inventory.Predicate.Joiner

/-!
# Filters

A filter is a list of groupings, a grouping a list of clauses, and a clause compares each of its
keys with the same values. Keys and operators are fragments of SQL, values are only ever bound.
Main statement: `Filter.isEmpty_iff`.
-/

namespace Inventory.Predicate

/-- One comparison: true when it holds for one of the keys. -/
structure Clause where
  /-- Joins the clause to the one before it in its grouping. -/
  joiner : Joiner := .and
  keys : List String := []
  /-- The text of the operator; none at all means equality. -/
  operator : String := ""
  values : List String := []
  deriving DecidableEq, Inhabited

namespace Clause

/-- The comparison of one key with one value. -/
def compare (key operator value : String) : Clause :=
  { keys := [key], operator, values := [value] }

/-- The test of one key that takes no value. -/
def test (key operator : String) : Clause :=
  { keys := [key], operator }

/-- The operator as it stands in SQL. -/
def comparator (c : Clause) : String := if c.operator.isEmpty then "=" else c.operator

/-- The operator tests for null: `IS N` occurs in it, in capitals. -/
def testsNull (c : Clause) : Bool := Text.occursIn ['I', 'S', ' ', 'N'] c.operator.toList

/-- The operator takes a list of values: it is IN, in any case. -/
def takesList (c : Clause) : Bool := Text.sameLetters c.operator.toList ['i', 'n']

/-- A clause in JSON. -/
def schema : Json.Schema Clause := .record "Clause" {} [
  .of "relativity" Joiner.schema (·.joiner) fun c joiner => { c with joiner },
  .of "keys" (.list .text) (·.keys) fun c keys => { c with keys },
  .of "operator" .text (·.operator) fun c operator => { c with operator },
  .of "values" (.list .text) (·.values) fun c values => { c with values }]

end Clause

/-- Clauses that are taken together. -/
structure Grouping where
  clauses : List Clause := []
  deriving DecidableEq, Inhabited

namespace Grouping

/-- The grouping of one clause. -/
def ofClause (c : Clause) : Grouping := ⟨[c]⟩

/-- A grouping in JSON. -/
def schema : Json.Schema Grouping := .record "Grouping" {} [
  .of "clauses" (.list Clause.schema) (·.clauses) fun g clauses => { g with clauses }]

end Grouping

/-- Groupings that one joiner joins. A filter without groupings lets everything through. -/
structure Filter where
  joiner : Joiner := .and
  groups : List Grouping := []
  deriving DecidableEq, Inhabited

namespace Filter

/-- There is nothing to filter on. -/
def isEmpty (f : Filter) : Bool := f.groups.isEmpty

/-- The filter with one grouping more. -/
def push (f : Filter) (g : Grouping) : Filter := { f with groups := f.groups ++ [g] }

theorem isEmpty_iff {f : Filter} : f.isEmpty = true ↔ f.groups = [] := by
  simp [isEmpty]

/-- A filter in JSON. -/
def schema : Json.Schema Filter := .record "ClauseSet" {} [
  .of "relativity" Joiner.schema (·.joiner) fun f joiner => { f with joiner },
  .of "groups" (.list Grouping.schema) (·.groups) fun f groups => { f with groups }]

end Filter

end Inventory.Predicate
