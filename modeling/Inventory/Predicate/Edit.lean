import Inventory.Predicate.Clause

/-!
# Changing filters

A filter is changed in place: a clause is added to a grouping or takes the place of another, a
grouping is taken away. What is not there cannot be changed.
-/

namespace Inventory.Predicate.Filter

/-- The filter with a clause more at the end of the grouping at an index. -/
def append? (f : Filter) (group : Nat) (c : Clause) : Option Filter :=
  match f.groups[group]? with
  | none => none
  | some g => some { f with groups := f.groups.set group ⟨g.clauses ++ [c]⟩ }

/-- The filter with a clause in the place of the one at an index of a grouping. -/
def replace? (f : Filter) (group index : Nat) (c : Clause) : Option Filter :=
  match f.groups[group]? with
  | none => none
  | some g =>
    if index < g.clauses.length then
      some { f with groups := f.groups.set group ⟨g.clauses.set index c⟩ }
    else none

/-- The filter without the grouping at an index. -/
def remove? (f : Filter) (group : Nat) : Option Filter :=
  if group < f.groups.length then some { f with groups := f.groups.eraseIdx group } else none

end Inventory.Predicate.Filter
