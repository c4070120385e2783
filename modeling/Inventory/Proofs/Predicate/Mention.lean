import Inventory.Predicate.Search
import Inventory.Proofs.Sql.Like

/-!
# What a search finds in a column

The term of a search stands in the pattern for the columns as it is. So a column that contains the
term is found as long as there is no backslash in the term, and nothing else is found as long as
there is no percent sign, underscore or backslash in it. Main statement: `mentioning_finds`.
-/

namespace Inventory.Predicate

open Sql.Like (like like_framed like_of_occursIn framed Plain)
open Text (occursIn)

theorem toList_likePattern (term : String) : (likePattern term).toList = framed term.toList := by
  have hpercent : "%".toList = ['%'] := rfl
  rw [likePattern, String.toList_append, String.toList_append, hpercent]
  rfl

/-- The comparisons of a search that go by likeness are those of the four columns. -/
theorem filter_mentioning (term : String) :
    (Grouping.mentioning term).clauses.filter (·.operator == "LIKE")
      = searchedColumns.map fun column =>
          { Clause.compare column "LIKE" (likePattern term) with joiner := .or } := by
  have htest : ("IS NOT NULL" == "LIKE") = false := by decide
  simp [Grouping.mentioning, Clause.test, Clause.compare, List.filter_map,
    Function.comp_def, htest]

/-- All four columns are compared with one pattern, the term as it is between two percent signs. It
fits exactly the texts that contain the term if and only if no character of the term has a meaning
of its own in a pattern, and it misses no text that contains the term if there is no backslash in
the term. -/
theorem mentioning_finds (term : String) :
    likePattern term = "%" ++ term ++ "%" ∧
    ((Grouping.mentioning term).clauses.filter (·.operator == "LIKE")
      = searchedColumns.map fun column =>
          { Clause.compare column "LIKE" (likePattern term) with joiner := .or }) ∧
    ((∀ text : String,
        like (likePattern term).toList text.toList = occursIn term.toList text.toList) ↔
      Plain term.toList) ∧
    ('\\' ∉ term.toList → ∀ text : String, occursIn term.toList text.toList = true →
      like (likePattern term).toList text.toList = true) := by
  refine ⟨rfl, filter_mentioning term, ?_, ?_⟩
  · rw [toList_likePattern, ← like_framed]
    constructor
    · intro h text
      have htext := h (String.ofList text)
      rw [String.toList_ofList] at htext
      exact htext
    · intro h text
      exact h text.toList
  · intro hback text hoccurs
    rw [toList_likePattern]
    exact like_of_occursIn hback hoccurs

/-- A percent sign in a term misses no text, although it finds others as well. -/
theorem mentioning_finds_percent :
    ((Grouping.mentioning "50%").clauses.filter (·.operator == "LIKE")
      = searchedColumns.map fun column =>
          { Clause.compare column "LIKE" "%50%%" with joiner := .or }) ∧
    like "%50%%".toList "at 50% load".toList = true := by
  obtain ⟨-, hclauses, -, hfinds⟩ := mentioning_finds "50%"
  exact ⟨hclauses, hfinds (by decide) "at 50% load" (by decide +kernel)⟩

/-- An underscore in a term finds other texts as well, and a term with a backslash is not even found
in itself. -/
theorem mentioning_finds_other :
    (∃ c ∈ (Grouping.mentioning "a_b").clauses, c.keys = ["hostname"] ∧ c.operator = "LIKE" ∧
      c.values = ["%a_b%"]) ∧
    like "%a_b%".toList "axb".toList = true ∧ occursIn "a_b".toList "axb".toList = false ∧
    (∃ c ∈ (Grouping.mentioning "a\\b").clauses, c.keys = ["hostname"] ∧ c.operator = "LIKE" ∧
      c.values = ["%a\\b%"]) ∧
    like "%a\\b%".toList "a\\b".toList = false ∧ occursIn "a\\b".toList "a\\b".toList = true := by
  decide +kernel

end Inventory.Predicate
