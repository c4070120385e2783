import Inventory.Proofs.Predicate.Refusal
import Inventory.Proofs.Settings.Request
import Mathlib.Data.List.Forall2

/-!
# What values can influence

Two filters are alike when they differ at most in the text of their values. Blotting out the
values makes alike filters equal, and it changes neither the flaw of a filter nor the text of its
condition; so the text of a value never reaches SQL. The values themselves are bound in an order
that blotting out does not change either. Main statements: `Filter.flaw?_masked` and
`Filter.sql_masked` (what the values have no part in), `Filter.bindings_eq` (where each bound value
comes from) and `condition_masks`.
-/

namespace Inventory.Predicate

/-! ## Alike filters -/

/-- The clauses differ at most in the text of their values. -/
structure Clause.Alike (c d : Clause) : Prop where
  joiner : c.joiner = d.joiner
  keys : c.keys = d.keys
  operator : c.operator = d.operator
  count : c.values.length = d.values.length

/-- The groupings have alike clauses, one by one. -/
def Grouping.Alike (g h : Grouping) : Prop := List.Forall₂ Clause.Alike g.clauses h.clauses

/-- The filters have alike groupings, one by one, and the same joiner. -/
structure Filter.Alike (f g : Filter) : Prop where
  joiner : f.joiner = g.joiner
  groups : List.Forall₂ Grouping.Alike f.groups g.groups

/-! ## Blotting out values -/

/-- As many values, all of them empty. -/
def blots (values : List String) : List String := values.map fun _ => ""

/-- The clause with its values blotted out. -/
def Clause.masked (c : Clause) : Clause := { c with values := blots c.values }

/-- The grouping with all values blotted out. -/
def Grouping.masked (g : Grouping) : Grouping := ⟨g.clauses.map Clause.masked⟩

/-- The filter with all values blotted out. -/
def Filter.masked (f : Filter) : Filter := { f with groups := f.groups.map Grouping.masked }

/-- The piece with its values blotted out. -/
def Piece.masked : Piece → Piece
  | .operand values => .operand (blots values)
  | p => p

theorem Clause.Alike.masked_eq {c d : Clause} (h : c.Alike d) : c.masked = d.masked := by
  obtain ⟨joiner, keys, operator, values⟩ := c
  obtain ⟨joiner', keys', operator', values'⟩ := d
  obtain ⟨rfl, rfl, rfl, hcount⟩ := h
  have hvalues : blots values = blots values' := by
    rw [blots, blots, List.map_const', List.map_const', hcount]
  rw [masked, masked, hvalues]

/-- Lists that are related one by one have the same image under a map that equates what is
related. -/
theorem map_eq_of_forall₂ {α β : Type} {r : α → α → Prop} {f : α → β}
    {xs ys : List α} (hxs : List.Forall₂ r xs ys) (h : ∀ {x y}, r x y → f x = f y) :
    xs.map f = ys.map f := by
  induction hxs with
  | nil => rfl
  | cons hx _ ih => rw [List.map_cons, List.map_cons, h hx, ih]

theorem Grouping.Alike.masked_eq {g h : Grouping} (halike : g.Alike h) : g.masked = h.masked :=
  congrArg Grouping.mk (map_eq_of_forall₂ halike Clause.Alike.masked_eq)

/-- Alike filters are the same once their values are blotted out. -/
theorem Filter.Alike.masked_eq {f g : Filter} (h : f.Alike g) : f.masked = g.masked := by
  have hgroups := map_eq_of_forall₂ h.groups Grouping.Alike.masked_eq
  rw [masked, masked, hgroups, h.joiner]

/-! ## Flaws -/

theorem Clause.defect?_masked (c : Clause) : c.masked.defect? = c.defect? := by
  simp [defect?, masked, blots, testsNull, takesList]

theorem firstFlaw_masked (g : Nat) :
    ∀ (clauses : List Clause) (n : Nat),
      firstFlaw g n (clauses.map Clause.masked) = firstFlaw g n clauses
  | [], _ => rfl
  | c :: rest, n => by
    rw [List.map_cons, firstFlaw, firstFlaw, c.defect?_masked, firstFlaw_masked g rest]

theorem firstGroupFlaw_masked :
    ∀ (groups : List Grouping) (n : Nat),
      firstGroupFlaw n (groups.map Grouping.masked) = firstGroupFlaw n groups
  | [], _ => rfl
  | g :: rest, n => by
    rw [List.map_cons, firstGroupFlaw, firstGroupFlaw, Grouping.masked, firstFlaw_masked,
      firstGroupFlaw_masked rest]

/-- The flaw of a filter does not depend on the text of values. -/
theorem Filter.flaw?_masked (f : Filter) : f.masked.flaw? = f.flaw? :=
  firstGroupFlaw_masked f.groups 0

/-! ## Text -/

theorem Piece.sql_masked (p : Piece) : p.masked.sql = p.sql := by
  cases p with
  | operand values => simp [masked, sql, blots]
  | _ => rfl

theorem Condition.sql_masked :
    ∀ ps : List Piece, (ofPieces (ps.map Piece.masked)).sql = (ofPieces ps).sql
  | [] => rfl
  | p :: ps => by
    rw [List.map_cons, ofPieces, ofPieces, p.sql_masked, sql_masked ps]

theorem Clause.pieces_masked (c : Clause) : c.masked.pieces = c.pieces.map Piece.masked := by
  have halternatives : ∀ keys, c.masked.alternatives keys
      = (c.alternatives keys).map Piece.masked := by
    intro keys
    cases keys with
    | nil => rfl
    | cons k rest =>
      rw [alternatives, alternatives, furtherPieces_eq, furtherPieces_eq, List.map_append,
        List.map_flatMap]
      rfl
  have hkeys : c.masked.keys = c.keys := rfl
  rw [pieces, pieces, halternatives, hkeys]
  split
  · simp [Piece.masked]
  · rfl

theorem Grouping.pieces_masked (g : Grouping) : g.masked.pieces = g.pieces.map Piece.masked := by
  have hclauses : ∀ clauses, clausePieces (clauses.map Clause.masked)
      = (clausePieces clauses).map Piece.masked := by
    intro clauses
    cases clauses with
    | nil => rfl
    | cons c rest =>
      rw [List.map_cons, clausePieces, clausePieces, furtherPieces_eq, furtherPieces_eq,
        List.map_append, List.map_flatMap, List.flatMap_map]
      simp only [Clause.pieces_masked]
      rfl
  rw [pieces, pieces, masked, hclauses, List.length_map]
  split
  · simp [Piece.masked]
  · rfl

theorem Filter.pieces_masked (f : Filter) : f.masked.pieces = f.pieces.map Piece.masked := by
  obtain ⟨joiner, groups⟩ := f
  cases groups with
  | nil => rfl
  | cons g rest =>
    rw [masked, pieces, pieces]
    simp only [List.map_cons]
    rw [furtherPieces_eq, furtherPieces_eq, List.map_append, List.map_flatMap, List.flatMap_map]
    simp only [Grouping.pieces_masked]
    rfl

/-- The text of a filter does not depend on the text of values. -/
theorem Filter.sql_masked (f : Filter) :
    (Condition.ofPieces f.masked.pieces).sql = (Condition.ofPieces f.pieces).sql := by
  rw [f.pieces_masked, Condition.sql_masked]

/-! ## Values -/

/-- Where a bound value comes from: a grouping, a clause of it and a value of that, by index. -/
structure Origin where
  grouping : Nat
  clause : Nat
  value : Nat
  deriving DecidableEq

namespace Filter

/-- The value of a filter at an origin. -/
def valueAt? (f : Filter) (o : Origin) : Option String :=
  (f.clauseAt? o.grouping o.clause).bind (·.values[o.value]?)

/-- The origins of the values that a filter binds: those of a clause once for each of its keys. -/
def origins (f : Filter) : List Origin :=
  f.groups.zipIdx.flatMap fun (g, i) => g.clauses.zipIdx.flatMap fun (c, j) =>
    c.keys.flatMap fun _ => (List.range c.values.length).map fun k => ⟨i, j, k⟩

/-- The origins do not depend on the text of values. -/
theorem origins_masked (f : Filter) : f.masked.origins = f.origins := by
  simp [origins, masked, Grouping.masked, Clause.masked, blots, List.zipIdx_map, List.flatMap_map]

/-- A list is made up of what stands at its indices. -/
theorem map_some_eq {α : Type} (xs : List α) :
    xs.map some = (List.range xs.length).map fun k => xs[k]? := by
  refine List.ext_getElem (by simp) fun k h₁ h₂ => ?_
  rw [List.length_map] at h₁
  simp [h₁]

/-- Elements taken with their indices. -/
theorem flatMap_eq_zipIdx {α β : Type} {xs : List α} {p : α → List β} {q : α × Nat → List β}
    (h : ∀ x i, xs[i]? = some x → p x = q (x, i)) : xs.flatMap p = xs.zipIdx.flatMap q := by
  have hfst : xs.flatMap p = xs.zipIdx.flatMap fun e => p e.1 := by
    rw [← List.flatMap_map Prod.fst p, List.zipIdx_map_fst]
  rw [hfst]
  refine List.flatMap_congr fun e he => h e.1 e.2 ?_
  exact List.mk_mem_zipIdx_iff_getElem?.1 he

/-- The bound values are those at the origins, in order. -/
theorem bindings_eq (f : Filter) :
    (Condition.ofPieces f.pieces).bindings.map some = f.origins.map f.valueAt? := by
  rw [bindings_pieces, clauses, origins, List.flatMap_assoc, List.map_flatMap, List.map_flatMap]
  refine flatMap_eq_zipIdx fun g i hg => ?_
  rw [List.map_flatMap, List.map_flatMap]
  refine flatMap_eq_zipIdx fun c j hc => ?_
  have hvalue : ∀ k, f.valueAt? ⟨i, j, k⟩ = c.values[k]? := fun k => by
    rw [valueAt?, clauseAt?_eq_some_iff.2 ⟨g, hg, hc⟩]
    rfl
  simp only [List.map_flatMap, List.map_map, map_some_eq c.values]
  exact List.flatMap_congr fun _ _ => List.map_congr_left fun k _ => (hvalue k).symm

/-- Alike filters are refused for the same flaw, or have conditions with the same text whose values
come from the same origins. -/
theorem Alike.condition {f g : Filter} (h : f.Alike g) :
    (∃ flaw, f.condition = .error flaw ∧ g.condition = .error flaw) ∨
    ∃ c d, f.condition = .ok c ∧ g.condition = .ok d ∧ c.sql = d.sql ∧
      c.bindings.length = d.bindings.length ∧
      c.bindings.map some = f.origins.map f.valueAt? ∧
      d.bindings.map some = f.origins.map g.valueAt? := by
  -- Whatever blotting out does not change is the same for both.
  have hmasked := h.masked_eq
  have hflaw : f.flaw? = g.flaw? := by rw [← f.flaw?_masked, hmasked, g.flaw?_masked]
  have horigins : f.origins = g.origins := by rw [← f.origins_masked, hmasked, g.origins_masked]
  cases hf : f.flaw? with
  | some flaw =>
    exact .inl ⟨flaw, condition_of_flaw hf, condition_of_flaw (hflaw.symm.trans hf)⟩
  | none =>
    refine .inr ⟨_, _, condition_of_sound hf, condition_of_sound (hflaw.symm.trans hf), ?_, ?_,
      f.bindings_eq, horigins ▸ g.bindings_eq⟩
    · rw [← f.sql_masked, hmasked, g.sql_masked]
    · have hlength (x : Filter) : (Condition.ofPieces x.pieces).bindings.length
          = x.origins.length := by
        rw [← List.length_map (f := some), x.bindings_eq, List.length_map]
      rw [hlength, hlength, horigins]

end Filter

end Inventory.Predicate

namespace Inventory.Settings.Queries

open Inventory.Predicate (Clause Filter Grouping)

/-! ## Requests -/

/-- Two parameters of the same name that ask for as many values. -/
def SameShape (e e' : String × List String) : Prop := e.1 = e'.1 ∧ e.2.length = e'.2.length

/-- Parameters of the same shape give alike groupings. -/
theorem filterFrom_alike (q : Queries) (recordType : String)
    {entries entries' : List (String × List String)}
    (h : List.Forall₂ SameShape entries entries') :
    List.Forall₂ Grouping.Alike (q.filterFrom recordType entries).1
      (q.filterFrom recordType entries').1 := by
  induction h with
  | nil => exact .nil
  | @cons e e' rest rest' hshape _ ih =>
    obtain ⟨param, values⟩ := e
    obtain ⟨param', values'⟩ := e'
    obtain ⟨rfl, hcount⟩ : param = param' ∧ values.length = values'.length := hshape
    have hrecognises : q.Recognises recordType (param, values)
        ↔ q.Recognises recordType (param, values') := by
      have hvalues : values ≠ [] ↔ values' ≠ [] := by
        rw [← List.length_pos_iff, hcount, List.length_pos_iff]
      rw [recognises_iff, recognises_iff]
      exact and_congr_right fun _ => hvalues
    rw [filterFrom_cons, filterFrom_cons, q.clause?_eq recordType (param, values),
      q.clause?_eq recordType (param, values')]
    by_cases hp : q.Recognises recordType (param, values)
    · -- Both parameters are recognised or neither is, so the groupings stay in step.
      rw [if_pos hp, if_pos (hrecognises.1 hp)]
      refine .cons (.cons ⟨rfl, rfl, ?_, hcount⟩ .nil) ih
      rw [asking, asking, hcount]
    · rw [if_neg hp, if_neg fun hp' => hp (hrecognises.2 hp')]
      exact ih

/-- Tables that give lists of the same length under each name have entries of the same shape. -/
theorem sameShape_entries {s t : Table (List String)}
    (h : ∀ name, (s.find? name).map List.length = (t.find? name).map List.length) :
    List.Forall₂ SameShape s.entries t.entries := by
  have hmap : s.entries.map (fun e => (e.1, e.2.length))
      = t.entries.map (fun e => (e.1, e.2.length)) :=
    eq_of_findEntry (s.sorted.map List.length) (t.sorted.map List.length) fun name => by
      rw [findEntry_map, findEntry_map]
      exact h name
  rw [← List.forall₂_eq_eq_eq, List.forall₂_map_left_iff, List.forall₂_map_right_iff] at hmap
  exact hmap.imp fun _ _ => Prod.mk.inj

/-- The text of values plays no part in SQL. Filters that differ at most in it are refused for the
same flaw at the same place, or get the same text and bind the values of the same origins in the
same order. Requests that ask for as many values under the same names get the same text. -/
theorem condition_masks :
    (∀ f g : Filter, f.Alike g →
      (∃ flaw, f.condition = .error flaw ∧ g.condition = .error flaw) ∨
      ∃ c d, f.condition = .ok c ∧ g.condition = .ok d ∧ c.sql = d.sql ∧
        c.bindings.length = d.bindings.length ∧
        c.bindings.map some = f.origins.map f.valueAt? ∧
        d.bindings.map some = f.origins.map g.valueAt?) ∧
    ∀ (q : Queries) (recordType : String) (params params' : Table (List String)),
      (∀ name, (params.find? name).map List.length = (params'.find? name).map List.length) →
      ∃ c d, (q.filter recordType params).1.condition = .ok c ∧
        (q.filter recordType params').1.condition = .ok d ∧ c.sql = d.sql := by
  refine ⟨fun f g h => h.condition, fun q recordType params params' h => ?_⟩
  have halike : (q.filter recordType params).1.Alike (q.filter recordType params').1 :=
    ⟨rfl, q.filterFrom_alike recordType (sameShape_entries h)⟩
  rcases halike.condition with ⟨flaw, hflaw, -⟩ | ⟨c, d, hc, hd, hsql, -⟩
  · -- The filter of a request is never refused.
    rw [Filter.condition_of_sound (q.flaw?_filter recordType params)] at hflaw
    contradiction
  · exact ⟨c, d, hc, hd, hsql⟩

/-- A filter that asks for some values, after a grouping without clauses. -/
def askingFor (x y z : String) : Filter :=
  { joiner := .or
    groups := [⟨[]⟩, ⟨[{ keys := ["a", "b"], operator := "in", values := [x, y] },
      { joiner := .or, keys := ["c"], values := [z] }]⟩] }

/-- Values that look like SQL leave the text as it is, in a filter and in a request. -/
theorem condition_masks_hostile :
    (askingFor "1" "2" "3").Alike (askingFor "?" "') OR (1" "x' --") ∧
    (∃ c d, (askingFor "1" "2" "3").condition = .ok c ∧
      (askingFor "?" "') OR (1" "x' --").condition = .ok d ∧ c.sql = d.sql ∧
      d.bindings = ["?", "') OR (1", "?", "') OR (1", "x' --"]) ∧
    let q : Queries := { params := .ofList [("host", .ofList [("vm", { table := "h" })])] }
    (∀ name, ((Table.ofList [("host", ["a"])]).find? name).map List.length
      = ((Table.ofList [("host", ["b' --"])]).find? name).map List.length) ∧
    ∃ c d, (q.filter "vm" (.ofList [("host", ["a"])])).1.condition = .ok c ∧
      (q.filter "vm" (.ofList [("host", ["b' --"])])).1.condition = .ok d ∧ c.sql = d.sql := by
  have halike : (askingFor "1" "2" "3").Alike (askingFor "?" "') OR (1" "x' --") :=
    ⟨rfl, .cons .nil (.cons (.cons ⟨rfl, rfl, rfl, rfl⟩ (.cons ⟨rfl, rfl, rfl, rfl⟩ .nil)) .nil)⟩
  have hshape : ∀ name, ((Table.ofList [("host", ["a"])]).find? name).map List.length
      = ((Table.ofList [("host", ["b' --"])]).find? name).map List.length := by
    intro name
    by_cases hname : "host" = name
    · subst hname; rfl
    · simp [Table.ofList, Table.find?, Table.insert, Table.empty, insertEntry, findEntry, hname]
  refine ⟨halike, ?_, hshape, condition_masks.2 _ "vm" _ _ hshape⟩
  rcases condition_masks.1 _ _ halike with ⟨flaw, hflaw, -⟩ | ⟨c, d, hc, hd, hsql, -, -, hvalues⟩
  · have hsound : (askingFor "1" "2" "3").flaw? = none := by decide
    rw [Filter.condition_of_sound hsound] at hflaw
    contradiction
  · refine ⟨c, d, hc, hd, hsql, List.map_injective_iff.2 (fun _ _ => Option.some.inj) ?_⟩
    rw [hvalues]
    rfl

end Inventory.Settings.Queries
