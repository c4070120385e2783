import Inventory.Json.Schema

/-!
# Pages

How many rows are wanted and how many come before them. Without a limit nothing is written,
whatever the offset; an offset of zero is left out.
-/

namespace Inventory.Predicate

/-- A page of rows. A limit of zero means that all rows are wanted, whatever the offset. -/
structure Page where
  limit : Int64 := 0
  offset : Int64 := 0
  deriving DecidableEq, Inhabited

namespace Page

/-- The digits of a word with its sign. -/
def digits (n : Int64) : String := String.ofList (Json.Number.renderWhole n.toInt)

/-- The text that is put after a condition. -/
def sql (p : Page) : String :=
  if p.limit = 0 then ""
  else if p.offset = 0 then "LIMIT " ++ digits p.limit
  else "LIMIT " ++ digits p.limit ++ " OFFSET " ++ digits p.offset

/-- A page in JSON. -/
def schema : Json.Schema Page := .record "Limit" {} [
  .of "limit" .int64 (·.limit) fun p limit => { p with limit },
  .of "offset" .int64 (·.offset) fun p offset => { p with offset }]

end Page

end Inventory.Predicate
