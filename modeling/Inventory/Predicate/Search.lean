import Inventory.Predicate.Clause

/-!
# Free-text search

The grouping that looks for a term anywhere in a record: inside the two JSON documents of a row,
where the term stands in the key as a literal of SQL, and in four columns, where it is bound.
-/

namespace Inventory.Predicate

/-- A character inside a literal of SQL: quotes and backslashes are doubled. -/
def escapeLiteralChar (c : Char) : List Char :=
  if c = '\'' then ['\'', '\''] else if c = '\\' then ['\\', '\\'] else [c]

/-- The characters of a text inside a literal of SQL. -/
def escapeLiteral (cs : List Char) : List Char := cs.flatMap escapeLiteralChar

/-- The pattern of a term: anything may stand before it and after it. -/
def likePattern (term : String) : String := "%" ++ term ++ "%"

/-- The key that looks for a pattern in a JSON document. -/
def documentKey (document pattern : String) : String :=
  "json_search(" ++ document ++ ", 'one', '"
    ++ String.ofList (escapeLiteral pattern.toList) ++ "')"

/-- The columns in which a term is looked for. -/
def searchedColumns : List String := ["hostname", "ip", "type", "committer"]

/-- The grouping of rows that mention a term: in one of the two documents or in a column. -/
def Grouping.mentioning (term : String) : Grouping :=
  let pattern := likePattern term
  ⟨Clause.test (documentKey "data" pattern) "IS NOT NULL"
    :: { Clause.test (documentKey "context" pattern) "IS NOT NULL" with joiner := .or }
    :: searchedColumns.map fun column =>
      { Clause.compare column "LIKE" pattern with joiner := .or }⟩

end Inventory.Predicate
