import Inventory.Predicate.Flaw

/-!
# Conditions

A filter without flaw becomes a condition: the text of a WHERE clause and the values bound to its
placeholders. It is put together from pieces, each with its text and the values it binds, so that
text and values cannot get out of step. Every piece ends in one blank, but for the parenthesis
that closes the alternatives of a clause with several keys. Main statements:
`Filter.condition_eq_ok_iff` (a filter is refused or put together as a whole) and
`Condition.ofPieces_append_sql` (pieces in a row give texts in a row).
-/

namespace Inventory.Predicate

/-- A piece of a condition. -/
inductive Piece where
  | opening
  | joiner (j : Joiner)
  | openGroup
  | closeGroup
  /-- Closes the alternatives of a clause with several keys. -/
  | closeKeys
  | key (k : String)
  | operator (o : String)
  /-- The placeholders of an operator's values. -/
  | operand (values : List String)
  deriving DecidableEq

namespace Piece

/-- Placeholders for so many values: one stands alone, several stand in a list. -/
def placeholders : Nat → String
  | 0 => ""
  | 1 => "? "
  | n + 2 => "(" ++ ",".intercalate (List.replicate (n + 2) "?") ++ ") "

/-- The text of a piece. -/
def sql : Piece → String
  | .opening => "WHERE "
  | .joiner j => j.keyword ++ " "
  | .openGroup => "( "
  | .closeGroup => ") "
  | .closeKeys => ")"
  | .key k => k ++ " "
  | .operator o => o ++ " "
  | .operand values => placeholders values.length

theorem placeholders_toList (n : Nat) :
    (placeholders (n + 2)).toList
      = '(' :: ([','].intercalate (List.replicate (n + 2) ['?']) ++ [')', ' ']) := by
  simp [placeholders, List.map_replicate]

/-- The values that a piece binds. -/
def bindings : Piece → List String
  | .operand values => values
  | _ => []

end Piece

/-- The text of a condition and the values bound to its placeholders, in order. -/
structure Condition where
  sql : String := ""
  bindings : List String := []
  deriving DecidableEq, Inhabited

namespace Condition

/-- There is no condition. -/
def isEmpty (c : Condition) : Bool := c.sql.isEmpty

/-- The condition that pieces make up. -/
def ofPieces : List Piece → Condition
  | [] => {}
  | p :: rest => ⟨p.sql ++ (ofPieces rest).sql, p.bindings ++ (ofPieces rest).bindings⟩

/-- Pieces in a row give texts in a row. -/
theorem ofPieces_append_sql (ps qs : List Piece) :
    (ofPieces (ps ++ qs)).sql = (ofPieces ps).sql ++ (ofPieces qs).sql := by
  induction ps with
  | nil => simp [ofPieces]
  | cons p ps ih => simp [ofPieces, ih, String.append_assoc]

/-- Parts that a joiner joins give their texts with its keyword between them. -/
theorem ofPieces_joined_sql {α : Type} (j : Joiner) (pieces : α → List Piece) :
    ∀ (xs : List α) (x : α),
      (ofPieces (pieces x ++ xs.flatMap fun y => .joiner j :: pieces y)).sql
        = (j.keyword ++ " ").intercalate ((x :: xs).map fun y => (ofPieces (pieces y)).sql)
  | [], x => by
    rw [List.flatMap_nil, List.append_nil, List.map_singleton, String.intercalate_singleton]
  | y :: xs, x => by
    have hnext : ∀ ps, (ofPieces (.joiner j :: ps)).sql = j.keyword ++ " " ++ (ofPieces ps).sql :=
      fun _ => rfl
    rw [List.flatMap_cons, ofPieces_append_sql, List.cons_append, hnext,
      ofPieces_joined_sql j pieces xs y]
    simp only [List.map_cons]
    rw [String.intercalate_cons_cons]
    exact (String.append_assoc ..).symm

/-- The text of pieces is that of one after the other. -/
theorem ofPieces_toList : ∀ ps, (ofPieces ps).sql.toList = ps.flatMap fun p => p.sql.toList
  | [] => rfl
  | p :: ps => by rw [ofPieces, String.toList_append, ofPieces_toList ps, List.flatMap_cons]

/-- The values of pieces are those of one after the other. -/
theorem ofPieces_bindings : ∀ ps, (ofPieces ps).bindings = ps.flatMap Piece.bindings
  | [] => rfl
  | p :: ps => by rw [ofPieces, ofPieces_bindings ps, List.flatMap_cons]

end Condition

namespace Clause

/-- The comparison of one key. -/
def keyPieces (c : Clause) (key : String) : List Piece :=
  [.key key, .operator c.comparator, .operand c.values]

/-- The comparisons of further keys. -/
def furtherPieces (c : Clause) : List String → List Piece
  | [] => []
  | k :: rest => .joiner .or :: (c.keyPieces k ++ c.furtherPieces rest)

theorem furtherPieces_eq (c : Clause) :
    ∀ keys, c.furtherPieces keys = keys.flatMap fun k => .joiner .or :: c.keyPieces k
  | [] => rfl
  | k :: rest => by rw [furtherPieces, furtherPieces_eq c rest, List.flatMap_cons]; rfl

/-- The comparisons of keys, joined by OR. -/
def alternatives (c : Clause) : List String → List Piece
  | [] => []
  | k :: rest => c.keyPieces k ++ c.furtherPieces rest

/-- The pieces of a clause. The values are bound anew for every key. -/
def pieces (c : Clause) : List Piece :=
  if 1 < c.keys.length then .openGroup :: (c.alternatives c.keys ++ [.closeKeys])
  else c.alternatives c.keys

end Clause

namespace Grouping

/-- The pieces of further clauses, each after its own joiner. -/
def furtherPieces : List Clause → List Piece
  | [] => []
  | c :: rest => .joiner c.joiner :: (c.pieces ++ furtherPieces rest)

theorem furtherPieces_eq :
    ∀ clauses, furtherPieces clauses = clauses.flatMap fun c => .joiner c.joiner :: c.pieces
  | [] => rfl
  | c :: rest => by rw [furtherPieces, furtherPieces_eq rest, List.flatMap_cons]; rfl

/-- The pieces of clauses. The joiner of the first is of no effect. -/
def clausePieces : List Clause → List Piece
  | [] => []
  | c :: rest => c.pieces ++ furtherPieces rest

/-- The pieces of a grouping, in parentheses when it has several clauses. -/
def pieces (g : Grouping) : List Piece :=
  if 1 < g.clauses.length then .openGroup :: (clausePieces g.clauses ++ [.closeGroup])
  else clausePieces g.clauses

end Grouping

namespace Filter

/-- The pieces of further groupings, each after the joiner of the filter. -/
def furtherPieces (j : Joiner) : List Grouping → List Piece
  | [] => []
  | g :: rest => .joiner j :: (g.pieces ++ furtherPieces j rest)

theorem furtherPieces_eq (j : Joiner) :
    ∀ groups, furtherPieces j groups = groups.flatMap fun g => .joiner j :: g.pieces
  | [] => rfl
  | g :: rest => by rw [furtherPieces, furtherPieces_eq j rest, List.flatMap_cons]; rfl

/-- The pieces of a filter, none without groupings. -/
def pieces (f : Filter) : List Piece :=
  match f.groups with
  | [] => []
  | g :: rest => .opening :: (g.pieces ++ furtherPieces f.joiner rest)

/-- The text of a filter: its groupings with the keyword of its joiner between them. -/
theorem ofPieces_pieces_sql {f : Filter} (h : f.groups ≠ []) :
    (Condition.ofPieces f.pieces).sql = "WHERE "
      ++ (f.joiner.keyword ++ " ").intercalate
        (f.groups.map fun g => (Condition.ofPieces g.pieces).sql) := by
  unfold pieces
  split
  · next hnil => exact absurd hnil h
  · next g rest hcons =>
    rw [furtherPieces_eq, hcons, ← Condition.ofPieces_joined_sql]
    rfl

/-- The condition of a filter, or its flaw. -/
def condition (f : Filter) : Except Flaw Condition :=
  match f.flaw? with
  | some flaw => .error flaw
  | none => .ok (.ofPieces f.pieces)

/-- A filter with a flaw has no condition. -/
theorem condition_of_flaw {f : Filter} {flaw : Flaw} (h : f.flaw? = some flaw) :
    f.condition = .error flaw := by
  simp [condition, h]

/-- A filter without flaw has the condition of its pieces. -/
theorem condition_of_sound {f : Filter} (h : f.flaw? = none) :
    f.condition = .ok (.ofPieces f.pieces) := by
  simp [condition, h]

/-- A filter has a condition exactly when it has no flaw, and only that of its pieces. -/
theorem condition_eq_ok_iff {f : Filter} {c : Condition} :
    f.condition = .ok c ↔ f.flaw? = none ∧ c = .ofPieces f.pieces := by
  unfold condition
  split
  · next h => simp [h]
  · next h => simp [h, eq_comm]

end Filter

end Inventory.Predicate
