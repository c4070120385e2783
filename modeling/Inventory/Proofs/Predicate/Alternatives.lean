import Inventory.Proofs.Predicate.Groupings

/-!
# Two ways to ask for alternatives

A clause with several keys asks for the same of each. A grouping with a clause for each key, joined
by OR, asks for that as well: the clauses are written by another rule than the keys, but in the
same words. Main statements: `Filter.flaw?_replace` (groupings with the same flaws can stand for
each other) and `condition_spread`.
-/

namespace Inventory.Predicate

/-! ## A clause for each key -/

namespace Clause

/-- The clause for one key alone. -/
def forKey (c : Clause) (joiner : Joiner) (key : String) : Clause :=
  { c with joiner := joiner, keys := [key] }

/-- A clause for each key. OR joins the further ones to the first, whose own joiner is of no
effect. -/
def spread (c : Clause) (first : Joiner) : Grouping :=
  match c.keys with
  | [] => ⟨[]⟩
  | k :: ks => ⟨c.forKey first k :: ks.map (c.forKey .or)⟩

theorem spread_of_cons {c : Clause} {k : String} {ks : List String} (h : c.keys = k :: ks)
    (first : Joiner) : c.spread first = ⟨c.forKey first k :: ks.map (c.forKey .or)⟩ := by
  rw [spread, h]

/-- What is wrong with a clause is wrong with each of its keys. -/
theorem defect?_forKey {c : Clause} (h : c.keys ≠ []) (j : Joiner) (k : String) :
    (c.forKey j k).defect? = c.defect? := by
  have hkeys : c.keys.isEmpty = false := List.isEmpty_eq_false_iff.2 h
  rw [defect?, defect?, hkeys]
  rfl

/-- The text for one key is its comparison. -/
theorem layout_forKey (c : Clause) (j : Joiner) (k : String) :
    (c.forKey j k).layout operand = c.comparisonLayout operand k := by
  show "OR ".intercalate [_] = _
  exact String.intercalate_singleton

end Clause

/-! ## Flaws -/

/-- The first flaw of a clause for each key is that of the clause. -/
theorem firstFlaw_spread (c : Clause) (first : Joiner) (h : c.keys ≠ []) (i : Nat) :
    firstFlaw i 0 (c.spread first).clauses = firstFlaw i 0 (Grouping.ofClause c).clauses := by
  obtain ⟨k, ks, hkeys⟩ := List.exists_cons_of_ne_nil h
  rw [Clause.spread_of_cons hkeys, Grouping.ofClause]
  cases hd : c.defect? with
  | some d => simp only [firstFlaw, Clause.defect?_forKey h, hd]
  | none =>
    have hsound : firstFlaw i 0 (c.forKey first k :: ks.map (c.forKey .or)) = none :=
      firstFlaw_eq_none_iff.2 fun x hx => by
        rcases List.mem_cons.1 hx with rfl | hx
        · rw [Clause.defect?_forKey h, hd]
        · obtain ⟨k', -, rfl⟩ := List.mem_map.1 hx
          rw [Clause.defect?_forKey h, hd]
    rw [hsound]
    simp only [firstFlaw, hd]

/-- A clause for each key binds the values once for each key. -/
theorem values_spread (c : Clause) (first : Joiner) :
    ((c.spread first).clauses.flatMap fun d => d.keys.flatMap fun _ => d.values)
      = (Grouping.ofClause c).clauses.flatMap fun d => d.keys.flatMap fun _ => d.values := by
  cases hkeys : c.keys with
  | nil => simp [Clause.spread, Grouping.ofClause, hkeys]
  | cons k ks => simp [Clause.spread_of_cons hkeys, Grouping.ofClause, Clause.forKey, hkeys,
      List.flatMap_map]

namespace Filter

/-- A grouping with the same flaws can stand in the place of another. -/
theorem flaw?_replace (j : Joiner) (before : List Grouping) {g h : Grouping}
    (behind : List Grouping)
    (hgh : ∀ i, firstFlaw i 0 g.clauses = firstFlaw i 0 h.clauses) :
    flaw? ⟨j, before ++ g :: behind⟩ = flaw? ⟨j, before ++ h :: behind⟩ := by
  show firstGroupFlaw 0 _ = firstGroupFlaw 0 _
  rw [firstGroupFlaw_append, firstGroupFlaw_append, firstGroupFlaw, firstGroupFlaw, hgh]

/-- A grouping with the same values can stand in the place of another. -/
theorem bindings_replace (j : Joiner) (before : List Grouping) {g h : Grouping}
    (behind : List Grouping)
    (hgh : (g.clauses.flatMap fun c => c.keys.flatMap fun _ => c.values)
      = h.clauses.flatMap fun c => c.keys.flatMap fun _ => c.values) :
    (Condition.ofPieces (pieces ⟨j, before ++ g :: behind⟩)).bindings
      = (Condition.ofPieces (pieces ⟨j, before ++ h :: behind⟩)).bindings := by
  simp only [bindings_pieces, clauses, List.flatMap_append, List.flatMap_cons, hgh]

end Filter

/-! ## Texts -/

theorem text_ofClause {c : Clause} (h : 1 < c.keys.length) :
    (Grouping.ofClause c).text = "( " ++ c.row Clause.operand ++ ")" := by
  have hclause : c.layout Clause.operand = "( " ++ c.row Clause.operand ++ ")" := if_pos h
  rw [← hclause]
  exact String.append_empty

/-- The clauses for the keys are joined as the keys are. -/
theorem row_spread {c : Clause} {k : String} {ks : List String} (h : c.keys = k :: ks)
    (first : Joiner) :
    Grouping.row Clause.operand (c.spread first).clauses = c.row Clause.operand := by
  have hor : ∀ k', (c.forKey .or k').joiner.keyword ++ " "
      ++ (c.forKey .or k').layout Clause.operand
        = "OR " ++ c.comparisonLayout Clause.operand k' := by
    intro k'
    rw [Clause.layout_forKey]
    rfl
  rw [Clause.spread_of_cons h, Grouping.row, Clause.layout_forKey, Clause.row, h, List.map_cons,
    intercalate_cons, List.map_map, List.map_map]
  simp only [Function.comp_def, hor]

theorem text_spread {c : Clause} (h : 1 < c.keys.length) (first : Joiner) :
    (c.spread first).text = "( " ++ c.row Clause.operand ++ ") " := by
  obtain ⟨k, ks, hkeys⟩ :=
    List.exists_cons_of_ne_nil (List.ne_nil_of_length_pos (Nat.zero_lt_of_lt h))
  have hseveral : 1 < (c.spread first).clauses.length := by
    rw [hkeys] at h
    rw [Clause.spread_of_cons hkeys]
    simpa using h
  rw [Grouping.text, Grouping.layout, if_pos hseveral, row_spread hkeys]

/-- A clause with several keys, alone in its grouping, and a clause for each of them, joined by OR,
are refused for the same flaw, or have the same values and the same text but for the blank that
follows the closing parenthesis of the clauses. -/
theorem condition_spread (j first : Joiner) (before behind : List Grouping) {c : Clause}
    (h : 1 < c.keys.length) :
    (∃ flaw, Filter.condition ⟨j, before ++ .ofClause c :: behind⟩ = .error flaw ∧
      Filter.condition ⟨j, before ++ c.spread first :: behind⟩ = .error flaw) ∨
    ∃ values,
      Filter.condition ⟨j, before ++ .ofClause c :: behind⟩
        = .ok ⟨Filter.lead j before ++ ("( " ++ c.row Clause.operand ++ ")")
          ++ Filter.trail j behind, values⟩ ∧
      Filter.condition ⟨j, before ++ c.spread first :: behind⟩
        = .ok ⟨Filter.lead j before ++ ("( " ++ c.row Clause.operand ++ ") ")
          ++ Filter.trail j behind, values⟩ := by
  have hne : c.keys ≠ [] := List.ne_nil_of_length_pos (Nat.zero_lt_of_lt h)
  have hflaw := Filter.flaw?_replace j before behind (firstFlaw_spread c first hne)
  have hvalues := Filter.bindings_replace j before behind (values_spread c first)
  cases hf : Filter.flaw? ⟨j, before ++ .ofClause c :: behind⟩ with
  | some flaw =>
    exact .inl ⟨flaw, Filter.condition_of_flaw hf, Filter.condition_of_flaw (hflaw.trans hf)⟩
  | none =>
    refine .inr ⟨(Condition.ofPieces (Filter.pieces ⟨j, before ++ .ofClause c :: behind⟩)).bindings,
      ?_, ?_⟩
    · rw [Filter.condition_of_sound hf, ← text_ofClause h, ← Filter.sql_around]
    · rw [Filter.condition_of_sound (hflaw.trans hf), ← text_spread h first, ← Filter.sql_around,
        ← hvalues]

/-- A clause that asks three keys for one of two values, if the operator takes a list. -/
def threeKeys (operator : String) : Clause :=
  { joiner := .or, keys := ["a", "b", "c"], operator, values := ["1", "2"] }

/-- Between an empty grouping and another the texts differ by a blank; with an operator that takes
one value both ways are refused. -/
theorem condition_spread_three :
    1 < (threeKeys "in").keys.length ∧
    (∃ values,
      Filter.condition ⟨.or, [⟨[]⟩, .ofClause (threeKeys "in"), .ofClause (.compare "d" "" "3")]⟩
        = .ok ⟨"WHERE OR ( a in (?,?) OR b in (?,?) OR c in (?,?) )OR d = ? ", values⟩ ∧
      Filter.condition ⟨.or, [⟨[]⟩, (threeKeys "in").spread .or, .ofClause (.compare "d" "" "3")]⟩
        = .ok ⟨"WHERE OR ( a in (?,?) OR b in (?,?) OR c in (?,?) ) OR d = ? ", values⟩) ∧
    ∃ flaw, Filter.condition ⟨.and, [⟨[]⟩, .ofClause (threeKeys "=")]⟩ = .error flaw ∧
      Filter.condition ⟨.and, [⟨[]⟩, (threeKeys "=").spread .and]⟩ = .error flaw := by
  have hlong (operator : String) : 1 < (threeKeys operator).keys.length := by
    show 1 < 3
    decide
  refine ⟨hlong "in", ?_, ?_⟩
  · rcases condition_spread .or .or [⟨[]⟩] [.ofClause (.compare "d" "" "3")] (hlong "in")
      with ⟨flaw, hflaw, -⟩ | ⟨values, hkeys, hclauses⟩
    · have hsound : Filter.flaw? ⟨.or,
          [⟨[]⟩] ++ .ofClause (threeKeys "in") :: [.ofClause (.compare "d" "" "3")]⟩ = none := by
        decide
      rw [Filter.condition_of_sound hsound] at hflaw
      contradiction
    · have htext {s t : String} (hst : s = t) :
          (Except.ok ⟨s, values⟩ : Except Flaw Condition) = .ok ⟨t, values⟩ := by rw [hst]
      exact ⟨values, hkeys.trans (htext (by decide +kernel)),
        hclauses.trans (htext (by decide +kernel))⟩
  · rcases condition_spread .and .and [⟨[]⟩] [] (hlong "=") with hflaw | ⟨values, hkeys, -⟩
    · exact hflaw
    · exact absurd (Filter.condition_eq_ok_iff.1 hkeys).1 (by decide)

end Inventory.Predicate
