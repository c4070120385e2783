import Inventory.Proofs.Predicate.Placeholders
import Inventory.Proofs.Predicate.Refusal
import Inventory.Proofs.Sql.Grammar

/-!
# The layout of a condition

The text of a condition is laid out from the comparisons of its clauses: OR between the keys of a
clause, the joiners of the clauses between the clauses of a grouping, the joiner of the filter
between groupings, and parentheses around several keys and around several clauses. The layout is
given for any choice of what stands behind the operators. Main statements: `Filter.sql_pieces`
(the text of a filter is its layout with the placeholders of the values) and `operand_fits` (which
operand an operator gets).
-/

namespace Inventory.Predicate

open Sql (Operand)

/-! ## Layouts -/

/-- The comparison of a key, with an operand. -/
def Clause.comparisonLayout (operand : Clause → String) (c : Clause) (key : String) : String :=
  key ++ " " ++ c.comparator ++ operand c ++ " "

/-- The comparisons of a clause with OR between them. -/
def Clause.row (operand : Clause → String) (c : Clause) : String :=
  "OR ".intercalate (c.keys.map (c.comparisonLayout operand))

/-- The comparisons of a clause, in parentheses when there are several. -/
def Clause.layout (operand : Clause → String) (c : Clause) : String :=
  if 1 < c.keys.length then "( " ++ c.row operand ++ ")" else c.row operand

/-- Clauses in a row, each with its joiner but for the first. -/
def Grouping.row (operand : Clause → String) : List Clause → String
  | [] => ""
  | c :: rest =>
    c.layout operand ++ String.join (rest.map fun d => d.joiner.keyword ++ " " ++ d.layout operand)

/-- The clauses of a grouping, in parentheses when there are several. -/
def Grouping.layout (operand : Clause → String) (g : Grouping) : String :=
  if 1 < g.clauses.length then "( " ++ row operand g.clauses ++ ") " else row operand g.clauses

/-- The groupings of a filter with its joiner between them, behind WHERE. -/
def Filter.layout (operand : Clause → String) (f : Filter) : String :=
  if f.groups = [] then ""
  else "WHERE " ++ (f.joiner.keyword ++ " ").intercalate (f.groups.map (Grouping.layout operand))

/-- The placeholders of a clause. -/
def Clause.operand (c : Clause) : String := (Operand.ofCount c.values.length).text

/-- The text of a grouping. -/
def Grouping.text (g : Grouping) : String := g.layout Clause.operand

/-! ## Pieces as layouts -/

/-- Pieces in rows give texts in a row. -/
theorem Condition.ofPieces_flatMap_sql {α : Type} (pieces : α → List Piece) :
    ∀ xs : List α, (ofPieces (xs.flatMap pieces)).sql
      = String.join (xs.map fun x => (ofPieces (pieces x)).sql)
  | [] => rfl
  | x :: xs => by
    rw [List.flatMap_cons, ofPieces_append_sql, ofPieces_flatMap_sql pieces xs, List.map_cons,
      String.join_cons]

/-- Parentheses stand around pieces. -/
theorem Condition.ofPieces_group_sql (ps : List Piece) (close : Piece) :
    (ofPieces (.openGroup :: (ps ++ [close]))).sql = "( " ++ (ofPieces ps).sql ++ close.sql := by
  have hopen : ∀ qs, (ofPieces (.openGroup :: qs)).sql = "( " ++ (ofPieces qs).sql := fun _ => rfl
  have hclose : (ofPieces [close]).sql = close.sql := String.append_empty
  rw [hopen, ofPieces_append_sql, hclose, String.append_assoc]

/-- The blank before an operand comes with the operator, the one behind it with the operand. -/
theorem blank_placeholders (n : Nat) :
    " " ++ Piece.placeholders n = (Operand.ofCount n).text ++ " " := by
  match n with
  | 0 => rfl
  | 1 => rfl
  | n + 2 =>
    show " " ++ ("(" ++ ",".intercalate _ ++ ") ") = " (" ++ ",".intercalate _ ++ ")" ++ " "
    simp only [← String.toList_inj, String.toList_append]
    simp

namespace Clause

theorem sql_keyPieces (c : Clause) (k : String) :
    (Condition.ofPieces (c.keyPieces k)).sql = c.comparisonLayout operand k := by
  show k ++ " " ++ (c.comparator ++ " " ++ (Piece.placeholders c.values.length ++ "")) = _
  have hoperand : c.comparator ++ " " ++ Piece.placeholders c.values.length
      = c.comparator ++ (c.operand ++ " ") := by
    rw [String.append_assoc, blank_placeholders]
    rfl
  rw [String.append_empty, hoperand, comparisonLayout]
  simp only [String.append_assoc]

/-- The text of a clause is its layout. -/
theorem sql_pieces (c : Clause) : (Condition.ofPieces c.pieces).sql = c.layout operand := by
  have hrow : (Condition.ofPieces (c.alternatives c.keys)).sql = c.row operand := by
    unfold row
    cases c.keys with
    | nil => rfl
    | cons k ks =>
      rw [alternatives, furtherPieces_eq, Condition.ofPieces_joined_sql]
      simp only [sql_keyPieces]
      rfl
  unfold pieces layout
  split
  · rw [Condition.ofPieces_group_sql, hrow]
    rfl
  · exact hrow

end Clause

/-- The text of a grouping is its layout. -/
theorem Grouping.sql_pieces (g : Grouping) : (Condition.ofPieces g.pieces).sql = g.text := by
  have hjoined : ∀ d : Clause, (Condition.ofPieces (.joiner d.joiner :: d.pieces)).sql
      = d.joiner.keyword ++ " " ++ d.layout Clause.operand := by
    intro d
    rw [← d.sql_pieces]
    rfl
  have hrow : (Condition.ofPieces (clausePieces g.clauses)).sql
      = row Clause.operand g.clauses := by
    cases g.clauses with
    | nil => rfl
    | cons c rest =>
      rw [clausePieces, furtherPieces_eq, Condition.ofPieces_append_sql,
        Condition.ofPieces_flatMap_sql, c.sql_pieces]
      simp only [hjoined]
      rfl
  unfold pieces text layout
  split
  · rw [Condition.ofPieces_group_sql, hrow]
    rfl
  · exact hrow

/-- The text of a filter is its layout. -/
theorem Filter.sql_pieces (f : Filter) :
    (Condition.ofPieces f.pieces).sql = f.layout Clause.operand := by
  unfold layout
  split
  · next hnil =>
    rw [pieces, hnil]
    rfl
  · next hne =>
    rw [ofPieces_pieces_sql hne]
    simp only [Grouping.sql_pieces]
    rfl

/-! ## Operands -/

/-- Placeholders in parentheses, one for each of so many values. -/
def listed (count : Nat) : String := " (" ++ ",".intercalate (List.replicate count "?") ++ ")"

theorem operand_of_one {c : Clause} (h : c.values.length = 1) : c.operand = " ?" := by
  rw [Clause.operand, h]
  rfl

theorem operand_of_many {c : Clause} (h : 1 < c.values.length) :
    c.operand = listed c.values.length := by
  obtain ⟨n, hn⟩ := Nat.exists_eq_add_of_lt h
  rw [Clause.operand, hn, show 1 + n + 1 = n + 2 by omega]
  rfl

/-- IN is no test for null. -/
theorem Clause.IsIn.not_namesNull {c : Clause} (h : c.IsIn) : ¬ c.NamesNull := by
  rintro ⟨l, r, hlr⟩
  have hlength : 4 ≤ c.operator.length := by
    rw [hlr, String.length_append, String.length_append]
    exact Nat.le_trans (Nat.le_add_left 4 l.length) (Nat.le_add_right _ _)
  have hin : c.operator.length = 2 := by
    have hwords : ∀ s ∈ ["IN", "In", "iN", "in"], s.length = 2 := by decide
    exact hwords _ h
  omega

/-- Behind IN stand as many placeholders in parentheses as there are values, or one that is bare
for a single value. Behind a test for null stands nothing and nothing is bound, unless there is a
value: then there is one, with a bare placeholder. Behind any other operator stands one bare
placeholder. All this holds for every comparison of every filter that is accepted. -/
theorem operand_fits {f : Filter} {c : Condition} (h : f.condition = .ok c) :
    c.sql = f.layout Clause.operand ∧
    c.bindings = (f.clauses.flatMap fun cl => cl.keys.flatMap fun _ => cl.values) ∧
    ∀ cl ∈ f.clauses,
      (cl.IsIn → cl.values ≠ [] ∧
        cl.operand = if cl.values.length = 1 then " ?" else listed cl.values.length) ∧
      (cl.NamesNull → cl.values.length ≤ 1 ∧
        cl.operand = if cl.values = [] then "" else " ?") ∧
      (¬ cl.IsIn → ¬ cl.NamesNull → cl.values.length = 1 ∧ cl.operand = " ?") := by
  obtain ⟨hflaw, rfl⟩ := Filter.condition_eq_ok_iff.1 h
  refine ⟨f.sql_pieces, bindings_pieces f, fun cl hcl => ?_⟩
  obtain ⟨g, hg, hcl⟩ := List.mem_flatMap.1 hcl
  obtain ⟨hcomplete, hfitting⟩ :=
    Clause.defect?_eq_none.1 (Filter.flaw?_eq_none_iff.1 hflaw g hg cl hcl)
  -- A sound clause without values tests for null, one with several takes a list.
  have hnull : cl.values = [] → cl.NamesNull := fun hnil => by
    by_contra hn
    exact hcomplete (.inr ⟨hnil, hn⟩)
  have hin : 1 < cl.values.length → cl.IsIn := fun hmany => by
    by_contra hn
    exact hfitting ⟨hcomplete, hmany, hn⟩
  have hone : cl.values ≠ [] → ¬ 1 < cl.values.length → cl.values.length = 1 := fun hne hfew => by
    have := List.length_pos_iff.2 hne
    omega
  refine ⟨fun hi => ?_, fun hn => ?_, fun hi hn => ?_⟩
  · have hne : cl.values ≠ [] := fun hnil => hi.not_namesNull (hnull hnil)
    refine ⟨hne, ?_⟩
    split
    · next h1 => exact operand_of_one h1
    · next h1 =>
      have := List.length_pos_iff.2 hne
      exact operand_of_many (by omega)
  · have hfew : ¬ 1 < cl.values.length := fun hmany => (hin hmany).not_namesNull hn
    refine ⟨Nat.le_of_not_lt hfew, ?_⟩
    split
    · next hnil =>
      rw [Clause.operand, hnil]
      rfl
    · next hne => exact operand_of_one (hone hne hfew)
  · have h1 := hone (fun hnil => hn (hnull hnil)) fun hmany => hi (hin hmany)
    exact ⟨h1, operand_of_one h1⟩

/-- A filter in which every kind of operator takes every number of values that it can. -/
def operandFilter : Filter :=
  { joiner := .or
    groups := [
      ⟨[{ keys := ["a", "b"], operator := "In", values := ["1", "2"] },
        { joiner := .or, keys := ["c"], operator := "in", values := ["3"] }]⟩,
      ⟨[{ keys := ["d"], operator := "IS NOT NULL" },
        { keys := ["e"], operator := "IS NULL", values := ["4"] },
        { keys := ["f"], values := ["5"] }]⟩] }

/-- IN takes a bare placeholder with one value, a test for null one with the value it should not
have. -/
theorem operand_fits_each :
    ∃ c, operandFilter.condition = .ok c ∧
      c.sql = "WHERE ( ( a In (?,?) OR b In (?,?) )OR c in ? ) OR "
        ++ "( d IS NOT NULL AND e IS NULL ? AND f = ? ) " ∧
      c.bindings = ["1", "2", "1", "2", "3", "4", "5"] ∧
      ∃ cl ∈ operandFilter.clauses, cl.IsIn ∧ cl.operand = " ?" := by
  have h : operandFilter.condition = .ok _ := Filter.condition_of_sound (by decide)
  obtain ⟨hsql, hbindings, hoperands⟩ := operand_fits h
  have hmem : { joiner := .or, keys := ["c"], operator := "in", values := ["3"] }
      ∈ operandFilter.clauses := by decide
  exact ⟨_, h, hsql.trans (by decide +kernel), hbindings.trans (by decide), _, hmem, by decide,
    ((hoperands _ hmem).1 (by decide)).2⟩

/-- The operand goes by the operator alone: a list for IN, nothing for a test for null, which binds
nothing, and one bare placeholder for any other operator. -/
def Clause.Demands (c : Clause) (operand : String) : Prop :=
  (c.IsIn → operand = listed c.values.length) ∧
  (c.NamesNull → operand = "" ∧ c.values = []) ∧
  (¬ c.IsIn → ¬ c.NamesNull → operand = " ?")

/-- A single comparison of a column with one value. -/
def loneFilter (operator : String) : Filter :=
  { groups := [.ofClause (.compare "type" operator "x")] }

/-- The operand does not go by the operator alone: one value is compared by IN without a list, and
by a test for null with a placeholder. -/
theorem operand_not_demanded :
    (∃ c, (loneFilter "IN").condition = .ok c ∧ c.sql = "WHERE type IN ? " ∧
      ¬ ∃ operand, c.sql = (loneFilter "IN").layout operand ∧
        ∀ cl ∈ (loneFilter "IN").clauses, cl.Demands (operand cl)) ∧
    (∃ c, (loneFilter "IS NULL").condition = .ok c ∧ c.sql = "WHERE type IS NULL ? " ∧
      ¬ ∃ operand, c.sql = (loneFilter "IS NULL").layout operand ∧
        ∀ cl ∈ (loneFilter "IS NULL").clauses, cl.Demands (operand cl)) := by
  refine ⟨⟨_, Filter.condition_of_sound (by decide), by decide +kernel, ?_⟩,
    ⟨_, Filter.condition_of_sound (by decide), by decide +kernel, ?_⟩⟩
  · rintro ⟨operand, hsql, hdemands⟩
    have hlist := (hdemands (.compare "type" "IN" "x") (by decide)).1 (by decide)
    have htext : (loneFilter "IN").layout operand
        = "WHERE " ++ ("type" ++ " " ++ "IN" ++ operand (.compare "type" "IN" "x") ++ " ") :=
      congrArg ("WHERE " ++ ·) String.append_empty
    rw [htext, hlist] at hsql
    exact absurd hsql (by decide +kernel)
  · rintro ⟨operand, -, hdemands⟩
    have hnull := (hdemands (.compare "type" "IS NULL" "x") (by decide)).2.1 ⟨"", "ULL", by decide⟩
    exact absurd hnull.2 (by decide)

end Inventory.Predicate
