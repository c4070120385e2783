import Inventory.Predicate.Condition
import Inventory.Predicate.Search
import Inventory.Proofs.Sql.Literal

/-!
# What a search says

The term of a search stands in the text of its condition twice, each time inside a literal, and it
cannot end the literal it stands in. Main statement: `search_contained`.
-/

namespace Inventory.Predicate

open Sql (IsStretch cut? scan_weave weave)

/-- The filter of a search among the records of one type. -/
def Filter.search (term recordType : String) : Filter :=
  { groups := [.mentioning term, .ofClause (.compare "type" "=" recordType)] }

/-- What stands around the literals of a search. -/
def searchStretches : List (List Char) :=
  ["WHERE ( json_search(data, ".toList,
    ", ".toList,
    ") IS NOT NULL OR json_search(context, ".toList,
    ", ".toList,
    ") IS NOT NULL OR hostname LIKE ? OR ip LIKE ? OR type LIKE ? OR committer LIKE ? ) ".toList
      ++ "AND type = ? ".toList]

/-! ## A search is accepted -/

theorem Clause.defect?_test {key operator : String} {j : Joiner}
    (h : Text.occursIn ['I', 'S', ' ', 'N'] operator.toList = true) :
    Clause.defect? { Clause.test key operator with joiner := j } = none := by
  rw [Clause.defect?_eq_none_iff]
  refine ⟨List.cons_ne_nil _ _, fun _ => h, fun hlt => ?_⟩
  exact absurd hlt (Nat.not_lt_zero 1)

theorem Clause.defect?_compare (key operator value : String) (j : Joiner) :
    Clause.defect? { Clause.compare key operator value with joiner := j } = none := by
  rw [Clause.defect?_eq_none_iff]
  refine ⟨List.cons_ne_nil _ _, fun hnil => ?_, fun hlt => ?_⟩
  · exact absurd hnil (List.cons_ne_nil _ _)
  · exact absurd hlt (Nat.lt_irrefl 1)

/-- A search has no flaw, whatever is looked for. -/
theorem flaw?_search (term recordType : String) : (Filter.search term recordType).flaw? = none := by
  have hnull : Text.occursIn ['I', 'S', ' ', 'N'] "IS NOT NULL".toList = true := by decide
  rw [Filter.flaw?_eq_none_iff]
  intro g hg c hc
  rcases List.mem_cons.1 hg with rfl | hg
  · rcases List.mem_cons.1 hc with rfl | hc
    · exact Clause.defect?_test (j := .and) hnull
    · rcases List.mem_cons.1 hc with rfl | hc
      · exact Clause.defect?_test hnull
      · obtain ⟨column, -, rfl⟩ := List.mem_map.1 hc
        exact Clause.defect?_compare column "LIKE" _ .or
  · rw [List.mem_singleton.1 hg] at hc
    rw [List.mem_singleton.1 hc]
    exact Clause.defect?_compare "type" "=" recordType .and

/-! ## The text of a search -/

/-- The pieces of a search. -/
theorem pieces_search (term recordType : String) :
    (Filter.search term recordType).pieces =
      [.opening, .openGroup,
        .key (documentKey "data" (likePattern term)), .operator "IS NOT NULL", .operand [],
        .joiner .or,
        .key (documentKey "context" (likePattern term)), .operator "IS NOT NULL", .operand [],
        .joiner .or, .key "hostname", .operator "LIKE", .operand [likePattern term],
        .joiner .or, .key "ip", .operator "LIKE", .operand [likePattern term],
        .joiner .or, .key "type", .operator "LIKE", .operand [likePattern term],
        .joiner .or, .key "committer", .operator "LIKE", .operand [likePattern term], .closeGroup,
        .joiner .and, .key "type", .operator "=", .operand [recordType]] :=
  rfl

/-- A document key is put together from a literal for the mode and one for the pattern. -/
theorem toList_documentKey (document pattern : String) :
    (documentKey document pattern).toList
      = weave ["json_search(".toList ++ (document.toList ++ ", ".toList), ", ".toList, [')']]
          ["one".toList, pattern.toList] := by
  have htext : documentKey document pattern = "json_search(" ++ document ++ ", 'one', '"
      ++ String.ofList (escapeLiteral pattern.toList) ++ "')" := rfl
  rw [htext]
  simp only [weave, String.toList_append, List.append_assoc]
  -- The kernel finds the characters of a string literal fast only through `String.ofList`.
  repeat rw [String.toList_ofList]
  rfl

/-- The text of a search is put together from its stretches and the term. -/
theorem toList_search (term recordType : String) :
    (Condition.ofPieces (Filter.search term recordType).pieces).sql.toList
      = weave searchStretches
          ["one".toList, (likePattern term).toList, "one".toList, (likePattern term).toList] := by
  rw [Condition.ofPieces_toList, pieces_search, searchStretches]
  simp only [List.flatMap_cons, List.flatMap_nil, List.append_nil, List.length_nil,
    List.length_cons, Piece.sql, Piece.placeholders, Joiner.keyword, String.toList_append,
    List.append_assoc, toList_documentKey, weave]
  repeat rw [String.toList_ofList]
  simp only [List.cons_append, List.nil_append, List.append_assoc]

/-- The values of a search. -/
theorem bindings_search (term recordType : String) :
    (Condition.ofPieces (Filter.search term recordType).pieces).bindings
      = [likePattern term, likePattern term, likePattern term, likePattern term, recordType] :=
  rfl

/-- There are as many placeholders around the literals as values. -/
theorem count_searchStretches : searchStretches.flatten.count '?' = 5 := by
  rw [searchStretches]
  repeat rw [String.toList_ofList]
  decide +kernel

theorem isStretch_searchStretches : ∀ s ∈ searchStretches, IsStretch s := by
  rw [searchStretches]
  repeat rw [String.toList_ofList]
  decide +kernel

/-- Whatever the term, its search is accepted. The text of the condition has four literals and the
same stretches around them, with five placeholders; the second literal and the fourth stand for
the term between percent signs, and this is what four of the placeholders are bound to. -/
theorem search_contained (term recordType : String) :
    ∃ c, (Filter.search term recordType).condition = .ok c ∧
      cut? c.sql = some ⟨searchStretches,
        ["one".toList, ("%" ++ term ++ "%").toList, "one".toList, ("%" ++ term ++ "%").toList]⟩ ∧
      searchStretches.flatten.count '?' = 5 ∧
      c.bindings
        = ["%" ++ term ++ "%", "%" ++ term ++ "%", "%" ++ term ++ "%", "%" ++ term ++ "%",
          recordType] := by
  have hpattern : "%" ++ term ++ "%" = likePattern term := rfl
  rw [hpattern]
  refine ⟨_, Filter.condition_of_sound (flaw?_search term recordType), ?_, count_searchStretches,
    bindings_search term recordType⟩
  rw [cut?, toList_search]
  have hlength : searchStretches.length = 4 + 1 := rfl
  exact scan_weave isStretch_searchStretches hlength

end Inventory.Predicate
