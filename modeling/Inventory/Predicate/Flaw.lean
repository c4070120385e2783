import Inventory.Predicate.Clause

/-!
# Flaws of filters

A clause is incomplete when there is nothing to compare, overfull when it has several values for
an operator that takes one. The flaw of a filter is that of its first flawed clause. Main
statements: `Clause.defect?_eq_none_iff` (which clauses are sound) and
`Filter.flaw?_eq_none_iff` (a filter has no flaw exactly when all its clauses are sound).
-/

namespace Inventory.Predicate

/-- What can be wrong with a clause. -/
inductive Defect where
  /-- No key, or no value for an operator that is no test for null. -/
  | incomplete
  /-- Several values for an operator that takes one. -/
  | overfull
  deriving DecidableEq

/-- A defect with the place of its clause. -/
structure Flaw where
  defect : Defect
  /-- The index of the grouping in the filter. -/
  grouping : Nat
  /-- The index of the clause in the grouping. -/
  clause : Nat
  deriving DecidableEq

namespace Flaw

/-- The wording of a flaw. -/
def message (f : Flaw) : String :=
  let what := match f.defect with
    | .incomplete => "incomplete WHERE argument"
    | .overfull => "tried to equate more than one value"
  what ++ " (grouping " ++ toString f.grouping ++ ", clause " ++ toString f.clause ++ ")"

/-- How a flaw is shown. -/
def outline (f : Flaw) : Outline :=
  let name := match f.defect with
    | .incomplete => "IncompletePredicate"
    | .overfull => "TooManyValues"
  .fields name [("grouping", .atom (toString f.grouping)), ("clause", .atom (toString f.clause))]

end Flaw

/-- What is wrong with a clause, if anything is. -/
def Clause.defect? (c : Clause) : Option Defect :=
  if c.keys.isEmpty || (c.values.isEmpty && !c.testsNull) then some .incomplete
  else if 1 < c.values.length && !c.takesList then some .overfull
  else none

/-- A clause is sound when it has a key, a value unless it tests for null, and several values only
for an operator that takes a list. -/
theorem Clause.defect?_eq_none_iff {c : Clause} :
    c.defect? = none ↔
      c.keys ≠ [] ∧ (c.values = [] → c.testsNull = true) ∧
        (1 < c.values.length → c.takesList = true) := by
  unfold Clause.defect?
  split
  · next h =>
    simp only [Bool.or_eq_true, List.isEmpty_iff, Bool.and_eq_true, Bool.not_eq_true'] at h
    simp only [reduceCtorEq, false_iff, not_and]
    rcases h with h | ⟨h, hn⟩
    · exact fun hk => absurd h hk
    · exact fun _ hv => by simp [hv h] at hn
  · next h =>
    simp only [Bool.or_eq_true, List.isEmpty_iff, Bool.and_eq_true, Bool.not_eq_true', not_or,
      not_and, Bool.not_eq_false] at h
    split
    · next h' =>
      simp only [Bool.and_eq_true, decide_eq_true_eq, Bool.not_eq_true'] at h'
      simp [h, h']
    · next h' =>
      simp only [Bool.and_eq_true, decide_eq_true_eq, Bool.not_eq_true', not_and,
        Bool.not_eq_false] at h'
      simp only [true_iff]
      exact ⟨h.1, h.2, h'⟩

/-- The first flaw among clauses of grouping `g`, counted from index `c`. -/
def firstFlaw (g : Nat) : Nat → List Clause → Option Flaw
  | _, [] => none
  | c, clause :: rest =>
    match clause.defect? with
    | some defect => some ⟨defect, g, c⟩
    | none => firstFlaw g (c + 1) rest

/-- The first flaw among groupings, counted from index `g`. -/
def firstGroupFlaw : Nat → List Grouping → Option Flaw
  | _, [] => none
  | g, grouping :: rest =>
    match firstFlaw g 0 grouping.clauses with
    | some flaw => some flaw
    | none => firstGroupFlaw (g + 1) rest

/-- The flaw of a filter: that of its first flawed clause. -/
def Filter.flaw? (f : Filter) : Option Flaw := firstGroupFlaw 0 f.groups

theorem firstFlaw_eq_none_iff {g : Nat} {clauses : List Clause} :
    ∀ {c : Nat}, firstFlaw g c clauses = none ↔ ∀ x ∈ clauses, x.defect? = none := by
  induction clauses with
  | nil => simp [firstFlaw]
  | cons x rest ih =>
    intro c
    unfold firstFlaw
    split
    · next h => simp [h]
    · next h => simp [h, ih]

theorem firstGroupFlaw_eq_none_iff {groups : List Grouping} :
    ∀ {g : Nat}, firstGroupFlaw g groups = none ↔
      ∀ x ∈ groups, ∀ c ∈ x.clauses, c.defect? = none := by
  induction groups with
  | nil => simp [firstGroupFlaw]
  | cons x rest ih =>
    intro g
    unfold firstGroupFlaw
    split
    · next h =>
      simp only [reduceCtorEq, List.mem_cons, forall_eq_or_imp, false_iff, not_and]
      intro hx
      rw [firstFlaw_eq_none_iff.2 hx] at h
      contradiction
    · next h =>
      simp only [List.mem_cons, forall_eq_or_imp, ih]
      exact ⟨fun hr => ⟨firstFlaw_eq_none_iff.1 h, hr⟩, fun hr => hr.2⟩

/-- A filter has no flaw exactly when all its clauses are sound. -/
theorem Filter.flaw?_eq_none_iff {f : Filter} :
    f.flaw? = none ↔ ∀ g ∈ f.groups, ∀ c ∈ g.clauses, c.defect? = none :=
  firstGroupFlaw_eq_none_iff

end Inventory.Predicate
