import Inventory.Predicate.Condition

/-!
# Which filters are refused

A filter is refused for the first of its clauses that is incomplete or overfull, in the order of
the groupings and of the clauses within each. What stands before that clause or after it plays no
part in the verdict. Main statements: `Clause.defect?_eq_some_iff` (the defect of a clause),
`Filter.flaw?_eq_some_iff` (the flaw of a filter is that of its first flawed clause) and
`condition_refusal`.
-/

namespace Inventory.Predicate

/-! ## Clauses -/

namespace Clause

/-- `IS N` stands somewhere in the operator, in capitals. -/
def NamesNull (c : Clause) : Prop := ∃ l r : String, c.operator = l ++ "IS N" ++ r

/-- The operator is IN, in whatever case. -/
def IsIn (c : Clause) : Prop := c.operator ∈ ["IN", "In", "iN", "in"]

instance (c : Clause) : Decidable c.IsIn := inferInstanceAs (Decidable (c.operator ∈ _))

/-- There is no key, or no value for an operator that needs one. -/
def Incomplete (c : Clause) : Prop := c.keys = [] ∨ c.values = [] ∧ ¬ c.NamesNull

/-- There are several values for an operator that takes one. -/
def Overfull (c : Clause) : Prop := ¬ c.Incomplete ∧ 1 < c.values.length ∧ ¬ c.IsIn

/-- The clause has a defect. -/
def Has (c : Clause) : Defect → Prop
  | .incomplete => c.Incomplete
  | .overfull => c.Overfull

theorem testsNull_iff {c : Clause} : c.testsNull = true ↔ c.NamesNull := by
  rw [testsNull, Text.occursIn_iff]
  constructor
  · rintro ⟨l, r, h⟩
    refine ⟨String.ofList l, String.ofList r, String.toList_inj.1 ?_⟩
    simpa using h
  · rintro ⟨l, r, h⟩
    refine ⟨l.toList, r.toList, ?_⟩
    rw [h]
    simp

theorem takesList_iff {c : Clause} : c.takesList = true ↔ c.IsIn := by
  have hi (x : Char) : x.toLower = 'i' ↔ x = 'i' ∨ x = 'I' :=
    Text.toLower_eq_iff (by decide) (by decide)
  have hn (x : Char) : x.toLower = 'n' ↔ x = 'n' ∨ x = 'N' :=
    Text.toLower_eq_iff (by decide) (by decide)
  have hword (s : String) : c.operator = s ↔ c.operator.toList = s.toList :=
    String.toList_inj.symm
  rw [takesList, Text.sameLetters_iff, IsIn]
  simp only [List.mem_cons, List.not_mem_nil, or_false, hword]
  show c.operator.toList.map Char.toLower = ['i', 'n'] ↔ _
  match c.operator.toList with
  | [] => simp
  | [_] => simp
  | [x, y] =>
    simp only [List.map_cons, List.map_nil, List.cons.injEq, and_true, hi, hn]
    show _ ↔ [x, y] = ['I', 'N'] ∨ [x, y] = ['I', 'n'] ∨ [x, y] = ['i', 'N'] ∨ [x, y] = ['i', 'n']
    simp only [List.cons.injEq, and_true]
    grind
  | _ :: _ :: _ :: _ => simp

/-- The defect of a clause is the one that it has. -/
theorem defect?_eq_some_iff {c : Clause} {d : Defect} : c.defect? = some d ↔ c.Has d := by
  have hincomplete : (c.keys.isEmpty || (c.values.isEmpty && !c.testsNull)) = true
      ↔ c.Incomplete := by
    simp [Incomplete, ← testsNull_iff]
  have hoverfull : (1 < c.values.length && !c.takesList) = true
      ↔ 1 < c.values.length ∧ ¬ c.IsIn := by
    simp [← takesList_iff]
  unfold defect?
  split
  · next h =>
    have hi := hincomplete.1 h
    cases d <;> simp [Has, Overfull, hi]
  · next h =>
    have hi : ¬ c.Incomplete := fun hi => h (hincomplete.2 hi)
    split
    · next h =>
      have ho := hoverfull.1 h
      cases d <;> simp [Has, Overfull, hi, ho]
    · next h =>
      have ho : ¬ (1 < c.values.length ∧ ¬ c.IsIn) := fun ho => h (hoverfull.2 ho)
      cases d <;> simp [Has, Overfull, hi, ho]

/-- A clause without defect is neither incomplete nor overfull. -/
theorem defect?_eq_none {c : Clause} : c.defect? = none ↔ ¬ c.Incomplete ∧ ¬ c.Overfull := by
  rw [Option.eq_none_iff_forall_ne_some]
  simp only [ne_eq, defect?_eq_some_iff]
  constructor
  · exact fun h => ⟨h .incomplete, h .overfull⟩
  · intro h d
    cases d with
    | incomplete => exact h.1
    | overfull => exact h.2

end Clause

/-! ## Filters -/

/-- The first hit in a list whose elements are numbered from `n`. -/
theorem findSome?_zipIdx_eq_some_iff {α β : Type} {test : α × Nat → Option β} {b : β} :
    ∀ {l : List α} {n : Nat}, (l.zipIdx n).findSome? test = some b ↔
      ∃ k x, l[k]? = some x ∧ test (x, n + k) = some b ∧
        ∀ m < k, ∀ y, l[m]? = some y → test (y, n + m) = none
  | [], n => by simp
  | x :: l, n => by
    have hshift (k : Nat) : n + 1 + k = n + (k + 1) := by omega
    rw [List.zipIdx_cons, List.findSome?_cons]
    cases hx : test (x, n) with
    | some a =>
      constructor
      · intro h
        exact ⟨0, x, rfl, hx.trans h, fun m hm => absurd hm (Nat.not_lt_zero m)⟩
      · rintro ⟨k, y, hy, hb, hbefore⟩
        cases k with
        | zero =>
          obtain rfl := Option.some.inj hy
          exact hx.symm.trans hb
        | succ k =>
          have hnone : test (x, n) = none := hbefore 0 (Nat.succ_pos k) x rfl
          exact absurd (hx.symm.trans hnone) (Option.some_ne_none a)
    | none =>
      simp only [findSome?_zipIdx_eq_some_iff, hshift]
      constructor
      · rintro ⟨k, y, hy, hb, hbefore⟩
        refine ⟨k + 1, y, hy, hb, fun m hm z hz => ?_⟩
        cases m with
        | zero =>
          obtain rfl := Option.some.inj hz
          exact hx
        | succ m => exact hbefore m (Nat.lt_of_succ_lt_succ hm) z hz
      · rintro ⟨k, y, hy, hb, hbefore⟩
        cases k with
        | zero =>
          obtain rfl := Option.some.inj hy
          exact absurd (hb.symm.trans hx) (Option.some_ne_none b)
        | succ k =>
          exact ⟨k, y, hy, hb, fun m hm z hz => hbefore (m + 1) (Nat.succ_lt_succ hm) z hz⟩

theorem firstFlaw_eq (g : Nat) :
    ∀ (clauses : List Clause) (n : Nat), firstFlaw g n clauses
      = (clauses.zipIdx n).findSome? fun e => e.1.defect?.map fun d => ⟨d, g, e.2⟩
  | [], _ => rfl
  | c :: rest, n => by
    rw [firstFlaw, List.zipIdx_cons, List.findSome?_cons, firstFlaw_eq g rest]
    cases c.defect? <;> rfl

theorem firstGroupFlaw_eq :
    ∀ (groups : List Grouping) (n : Nat), firstGroupFlaw n groups
      = (groups.zipIdx n).findSome? fun e => firstFlaw e.2 0 e.1.clauses
  | [], _ => rfl
  | g :: rest, n => by
    rw [firstGroupFlaw, List.zipIdx_cons, List.findSome?_cons, firstGroupFlaw_eq rest]
    cases firstFlaw n 0 g.clauses <;> rfl

namespace Filter

/-- The clause at an index of the grouping at an index. -/
def clauseAt? (f : Filter) (grouping clause : Nat) : Option Clause :=
  f.groups[grouping]?.bind (·.clauses[clause]?)

theorem clauseAt?_eq_some_iff {f : Filter} {i j : Nat} {c : Clause} :
    f.clauseAt? i j = some c ↔ ∃ g, f.groups[i]? = some g ∧ g.clauses[j]? = some c :=
  Option.bind_eq_some_iff

/-- The clause at a place has a defect, and no clause before it has one. -/
def FirstOffence (f : Filter) (flaw : Flaw) : Prop :=
  (∃ c, f.clauseAt? flaw.grouping flaw.clause = some c ∧ c.Has flaw.defect) ∧
  ∀ i j c, i < flaw.grouping ∨ i = flaw.grouping ∧ j < flaw.clause →
    f.clauseAt? i j = some c → ¬ c.Incomplete ∧ ¬ c.Overfull

/-- The flaw of a filter is that of its first clause with a defect. -/
theorem flaw?_eq_some_iff {f : Filter} {flaw : Flaw} :
    f.flaw? = some flaw ↔ f.FirstOffence flaw := by
  rw [flaw?, firstGroupFlaw_eq, findSome?_zipIdx_eq_some_iff]
  simp only [Nat.zero_add]
  constructor
  · rintro ⟨i, g, hg, hflaw, hbefore⟩
    rw [firstFlaw_eq, findSome?_zipIdx_eq_some_iff] at hflaw
    obtain ⟨j, c, hc, hhit, hearlier⟩ := hflaw
    obtain ⟨d, hd, rfl⟩ := Option.map_eq_some_iff.1 hhit
    rw [Nat.zero_add]
    refine ⟨⟨c, clauseAt?_eq_some_iff.2 ⟨g, hg, hc⟩, Clause.defect?_eq_some_iff.1 hd⟩, ?_⟩
    intro i' j' c' hlt hc'
    obtain ⟨g', hg', hc'⟩ := clauseAt?_eq_some_iff.1 hc'
    rw [← Clause.defect?_eq_none]
    rcases hlt with hlt | ⟨rfl, hlt⟩
    · exact firstFlaw_eq_none_iff.1 (hbefore i' hlt g' hg') c' (List.mem_of_getElem? hc')
    · obtain rfl := Option.some.inj (hg.symm.trans hg')
      exact Option.map_eq_none_iff.1 (hearlier j' hlt c' hc')
  · rintro ⟨⟨c, hc, hd⟩, hbefore⟩
    obtain ⟨g, hg, hc⟩ := clauseAt?_eq_some_iff.1 hc
    have hsound : ∀ i j g' c', i < flaw.grouping ∨ i = flaw.grouping ∧ j < flaw.clause →
        f.groups[i]? = some g' → g'.clauses[j]? = some c' → c'.defect? = none :=
      fun i j g' c' hlt hg' hc' => Clause.defect?_eq_none.2
        (hbefore i j c' hlt (clauseAt?_eq_some_iff.2 ⟨g', hg', hc'⟩))
    refine ⟨flaw.grouping, g, hg, ?_, fun i hlt g' hg' => ?_⟩
    · rw [firstFlaw_eq, findSome?_zipIdx_eq_some_iff]
      refine ⟨flaw.clause, c, hc, ?_, fun j hlt c' hc' => ?_⟩
      · rw [Nat.zero_add, Clause.defect?_eq_some_iff.2 hd]
        rfl
      · rw [hsound flaw.grouping j g c' (.inr ⟨rfl, hlt⟩) hg hc']
        rfl
    · refine firstFlaw_eq_none_iff.2 fun c' hc' => ?_
      obtain ⟨j, hj⟩ := List.getElem?_of_mem hc'
      exact hsound i j g' c' (.inl hlt) hg' hj

theorem condition_eq_error_iff {f : Filter} {flaw : Flaw} :
    f.condition = .error flaw ↔ f.flaw? = some flaw := by
  unfold condition
  split
  · next h => simp [h]
  · next h => simp [h]

/-- A filter has no condition exactly when one of its clauses is incomplete or overfull, and is
refused for a flaw exactly when that is the defect and the place of its first such clause. -/
theorem condition_refusal (f : Filter) :
    (f.condition.toOption = none ↔
      ∃ i j c, f.clauseAt? i j = some c ∧ (c.Incomplete ∨ c.Overfull)) ∧
    ∀ flaw, f.condition = .error flaw ↔ f.FirstOffence flaw := by
  refine ⟨?_, fun flaw => condition_eq_error_iff.trans flaw?_eq_some_iff⟩
  constructor
  · intro h
    cases hflaw : f.flaw? with
    | none =>
      rw [condition_of_sound hflaw] at h
      exact absurd h (Option.some_ne_none _)
    | some flaw =>
      obtain ⟨⟨c, hc, hd⟩, -⟩ := flaw?_eq_some_iff.1 hflaw
      refine ⟨_, _, c, hc, ?_⟩
      match flaw.defect, hd with
      | .incomplete, hd => exact .inl hd
      | .overfull, hd => exact .inr hd
  · rintro ⟨i, j, c, hc, hbad⟩
    cases hflaw : f.flaw? with
    | none =>
      obtain ⟨g, hg, hc⟩ := clauseAt?_eq_some_iff.1 hc
      have hsound := Clause.defect?_eq_none.1
        (flaw?_eq_none_iff.1 hflaw g (List.mem_of_getElem? hg) c (List.mem_of_getElem? hc))
      exact absurd hbad (by simp [hsound])
    | some flaw =>
      rw [condition_of_flaw hflaw]
      rfl

-- A grouping without clauses counts in the place; the incomplete clause comes second.
example : ({ groups := [⟨[]⟩, ⟨[{ keys := ["a"], values := ["1", "2"] }, {}]⟩] } : Filter).flaw?
    = some ⟨.overfull, 1, 0⟩ := by decide

end Filter

end Inventory.Predicate
