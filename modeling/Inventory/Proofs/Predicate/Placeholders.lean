import Inventory.Predicate.Condition
import Mathlib.Algebra.BigOperators.Group.List.Basic
import Mathlib.Algebra.GroupWithZero.Nat

/-!
# Placeholders and values

Every key of a clause takes the whole list of its values, and every value has a placeholder of its
own. Other placeholders can only come in with the text of keys and operators. Main statements:
`Filter.flatMap_pieces` (what is read off the pieces of a filter is read off its keys one by one)
and `condition_accounts`.
-/

namespace Inventory.Predicate

/-- The clauses of a filter, grouping by grouping. -/
def Filter.clauses (f : Filter) : List Clause := f.groups.flatMap (·.clauses)

/-- How many question marks a text has. -/
def marksIn (s : String) : Nat := s.toList.count '?'

/-! ## Reading pieces key by key -/

/-- Joiners and parentheses have nothing of what is read off the pieces. -/
structure PassesOver {α : Type} (read : Piece → List α) : Prop where
  opening : read .opening = []
  joiner : ∀ j, read (.joiner j) = []
  openGroup : read .openGroup = []
  closeGroup : read .closeGroup = []
  closeKeys : read .closeKeys = []

section
variable {α : Type} {read : Piece → List α}

/-- Parts with joiners between them are read one after the other. -/
theorem PassesOver.joined {β : Type} (h : PassesOver read) (join : β → Joiner)
    (pieces : β → List Piece) (x : β) (xs : List β) :
    (pieces x ++ xs.flatMap fun y => .joiner (join y) :: pieces y).flatMap read
      = (x :: xs).flatMap fun y => (pieces y).flatMap read := by
  rw [List.flatMap_append, List.flatMap_assoc, List.flatMap_cons]
  simp only [List.flatMap_cons, h.joiner, List.nil_append]

/-- Parentheses are passed over. -/
theorem PassesOver.group (h : PassesOver read) (ps : List Piece) {close : Piece}
    (hclose : close = .closeGroup ∨ close = .closeKeys) :
    (.openGroup :: (ps ++ [close])).flatMap read = ps.flatMap read := by
  have hnil : read close = [] := by
    rcases hclose with rfl | rfl
    · exact h.closeGroup
    · exact h.closeKeys
  rw [List.flatMap_cons, List.flatMap_append, h.openGroup, List.flatMap_singleton, hnil,
    List.append_nil, List.nil_append]

theorem Clause.flatMap_pieces (h : PassesOver read) (c : Clause) :
    c.pieces.flatMap read = c.keys.flatMap fun k => (c.keyPieces k).flatMap read := by
  have halternatives : ∀ keys, (c.alternatives keys).flatMap read
      = keys.flatMap fun k => (c.keyPieces k).flatMap read := by
    intro keys
    cases keys with
    | nil => rfl
    | cons k ks =>
      rw [alternatives, furtherPieces_eq]
      exact h.joined (fun _ => .or) c.keyPieces k ks
  unfold pieces
  split
  · rw [h.group _ (.inr rfl)]
    exact halternatives c.keys
  · exact halternatives c.keys

theorem Grouping.flatMap_pieces (h : PassesOver read) (g : Grouping) :
    g.pieces.flatMap read = g.clauses.flatMap fun c => c.pieces.flatMap read := by
  have hclauses : ∀ clauses, (clausePieces clauses).flatMap read
      = clauses.flatMap fun c => c.pieces.flatMap read := by
    intro clauses
    cases clauses with
    | nil => rfl
    | cons c cs =>
      rw [clausePieces, furtherPieces_eq]
      exact h.joined (·.joiner) Clause.pieces c cs
  unfold pieces
  split
  · rw [h.group _ (.inl rfl)]
    exact hclauses g.clauses
  · exact hclauses g.clauses

/-- What is read off the pieces of a filter is read off its clauses and their keys in order. -/
theorem Filter.flatMap_pieces (h : PassesOver read) (f : Filter) :
    f.pieces.flatMap read
      = f.clauses.flatMap fun c => c.keys.flatMap fun k => (c.keyPieces k).flatMap read := by
  have hgroups : f.pieces.flatMap read = f.groups.flatMap fun g => g.pieces.flatMap read := by
    unfold pieces
    split
    · next hnil => rw [hnil]; rfl
    · next g gs hcons =>
      rw [hcons, furtherPieces_eq, List.flatMap_cons, h.opening, List.nil_append]
      exact h.joined (fun _ => f.joiner) Grouping.pieces g gs
  rw [hgroups, clauses, List.flatMap_assoc]
  simp only [Grouping.flatMap_pieces h, Clause.flatMap_pieces h]

end

/-! ## Accounts -/

/-- The question marks of a piece. -/
def marksOf (p : Piece) : List Char := p.sql.toList.filter (· == '?')

theorem length_marksOf (p : Piece) : (marksOf p).length = marksIn p.sql :=
  List.countP_eq_length_filter.symm

theorem marksIn_append (s t : String) : marksIn (s ++ t) = marksIn s + marksIn t := by
  rw [marksIn, String.toList_append, List.count_append]
  rfl

theorem count_marks :
    ∀ n, ([','].intercalate (List.replicate (n + 1) ['?'])).count '?' = n + 1
  | 0 => rfl
  | n + 1 => by
    rw [List.replicate_succ, List.replicate_succ, List.intercalate_cons_cons,
      ← List.replicate_succ, List.count_append, count_marks n]
    exact Nat.add_comm 1 (n + 1)

/-- Every value has its placeholder. -/
theorem marksIn_placeholders (n : Nat) : marksIn (Piece.placeholders n) = n := by
  match n with
  | 0 => rfl
  | 1 => rfl
  | n + 2 =>
    rw [marksIn, Piece.placeholders_toList, List.count_cons, List.count_append, count_marks]
    rfl

/-- The question marks of a comparison: those of its texts and one for each value. -/
theorem length_marksOf_key (c : Clause) (k : String) :
    ((c.keyPieces k).flatMap marksOf).length
      = marksIn k + marksIn c.comparator + c.values.length := by
  have hblank : ∀ s, marksIn (s ++ " ") = marksIn s := fun s => marksIn_append s " "
  rw [List.length_flatMap]
  simp only [Clause.keyPieces, List.map_cons, List.map_nil, List.sum_cons, List.sum_nil,
    length_marksOf, Piece.sql, hblank, marksIn_placeholders]
  omega

theorem passesOver_bindings : PassesOver Piece.bindings := ⟨rfl, fun _ => rfl, rfl, rfl, rfl⟩

theorem passesOver_marksOf : PassesOver marksOf :=
  ⟨rfl, fun j => by cases j <;> rfl, rfl, rfl, rfl⟩

/-- The values of a filter, those of a clause once for each of its keys. -/
theorem bindings_pieces (f : Filter) :
    (Condition.ofPieces f.pieces).bindings
      = f.clauses.flatMap fun c => c.keys.flatMap fun _ => c.values := by
  have hkey : ∀ (c : Clause) (k : String), (c.keyPieces k).flatMap Piece.bindings = c.values :=
    fun c k => by simp [Clause.keyPieces, Piece.bindings]
  rw [Condition.ofPieces_bindings, Filter.flatMap_pieces passesOver_bindings]
  simp only [hkey]

/-- The question marks of a filter, comparison by comparison. -/
theorem marksIn_pieces (f : Filter) :
    marksIn (Condition.ofPieces f.pieces).sql
      = (f.clauses.map fun c =>
          (c.keys.map fun k => marksIn k + marksIn c.comparator + c.values.length).sum).sum := by
  have hmarks : marksIn (Condition.ofPieces f.pieces).sql = (f.pieces.flatMap marksOf).length := by
    rw [marksIn, Condition.ofPieces_toList, List.count_flatMap, List.length_flatMap]
    simp only [length_marksOf]
    rfl
  have hclause : ∀ c : Clause, (c.keys.flatMap fun k => (c.keyPieces k).flatMap marksOf).length
      = (c.keys.map fun k => marksIn k + marksIn c.comparator + c.values.length).sum := by
    intro c
    rw [List.length_flatMap]
    simp only [length_marksOf_key]
  rw [hmarks, Filter.flatMap_pieces passesOver_marksOf, List.length_flatMap]
  simp only [hclause]

/-- Equality, which stands for no operator, has no question mark. -/
theorem marksIn_comparator {c : Clause} (h : marksIn c.operator = 0) :
    marksIn c.comparator = 0 := by
  unfold Clause.comparator
  split
  · rfl
  · exact h

/-- The values of a condition are those of the clauses, the whole list once for each key, and its
text has as many question marks as there are values and as come in with keys and operators. -/
theorem condition_accounts {f : Filter} {c : Condition} (h : f.condition = .ok c) :
    c.bindings = (f.clauses.flatMap fun cl => cl.keys.flatMap fun _ => cl.values) ∧
    c.bindings.length = (f.clauses.map fun cl => cl.keys.length * cl.values.length).sum ∧
    marksIn c.sql = c.bindings.length +
      (f.clauses.map fun cl => (cl.keys.map fun k => marksIn k + marksIn cl.comparator).sum).sum ∧
    ((∀ cl ∈ f.clauses, marksIn cl.operator = 0 ∧ ∀ k ∈ cl.keys, marksIn k = 0) →
      marksIn c.sql = c.bindings.length) := by
  obtain ⟨-, rfl⟩ := Filter.condition_eq_ok_iff.1 h
  have hlength : (Condition.ofPieces f.pieces).bindings.length
      = (f.clauses.map fun cl => cl.keys.length * cl.values.length).sum := by
    rw [bindings_pieces, List.length_flatMap]
    simp only [List.length_flatMap, List.map_const', List.sum_replicate_nat]
  have hmarks : marksIn (Condition.ofPieces f.pieces).sql
      = (Condition.ofPieces f.pieces).bindings.length +
        (f.clauses.map fun cl =>
          (cl.keys.map fun k => marksIn k + marksIn cl.comparator).sum).sum := by
    rw [marksIn_pieces, hlength, Nat.add_comm]
    simp only [List.sum_map_add, List.map_const', List.sum_replicate_nat]
  refine ⟨bindings_pieces f, hlength, hmarks, fun hnone => ?_⟩
  -- Nothing comes in with the texts, so every term of both sums is zero.
  have hzero : (f.clauses.map fun cl =>
      (cl.keys.map fun k => marksIn k + marksIn cl.comparator).sum).sum = 0 := by
    rw [List.sum_eq_zero_iff_forall_eq_nat]
    intro n hn
    obtain ⟨cl, hcl, rfl⟩ := List.mem_map.1 hn
    rw [List.sum_eq_zero_iff_forall_eq_nat]
    intro m hm
    obtain ⟨k, hk, rfl⟩ := List.mem_map.1 hm
    rw [(hnone cl hcl).2 k hk, marksIn_comparator (hnone cl hcl).1]
  rw [hmarks, hzero, Nat.add_zero]

/-- A filter whose first grouping is empty and whose second asks two keys for several values. -/
def strayFilter : Filter :=
  { joiner := .or
    groups := [⟨[]⟩, ⟨[{ keys := ["a?", "b"], operator := "IN", values := ["x", "y", "z"] }]⟩] }

/-- The question mark in a key comes on top of those of the values. -/
theorem condition_accounts_stray :
    ∃ c, strayFilter.condition = .ok c ∧
      c.bindings = ["x", "y", "z", "x", "y", "z"] ∧ marksIn c.sql = 7 := by
  have h : strayFilter.condition = .ok _ := Filter.condition_of_sound (by decide)
  obtain ⟨hbindings, -, hmarks, -⟩ := condition_accounts h
  exact ⟨_, h, hbindings, by rw [hmarks, hbindings]; decide⟩

end Inventory.Predicate
