import Inventory.Proofs.Predicate.Layout

/-!
# Groupings in a row

A filter is put together grouping by grouping: what the groupings before have to say does not
depend on those behind. So the condition of some groupings and then others is that of the former,
the joiner, and that of the latter without WHERE, and a flaw of the latter is found as many
groupings further on. A grouping without clauses has the empty text and binds nothing, but the
joiners around it stand. Main statements: `Filter.flaw?_append`, `condition_append` (groupings
behind others) and `condition_pruned` (groupings without clauses).
-/

namespace Inventory.Predicate

/-! ## Flaws -/

/-- The flaw, so many groupings further on. -/
def Flaw.shifted (n : Nat) (flaw : Flaw) : Flaw := { flaw with grouping := flaw.grouping + n }

theorem firstFlaw_shifted (n g : Nat) :
    ∀ (clauses : List Clause) (i : Nat),
      firstFlaw (g + n) i clauses = (firstFlaw g i clauses).map (Flaw.shifted n)
  | [], _ => rfl
  | c :: rest, i => by
    rw [firstFlaw, firstFlaw, firstFlaw_shifted n g rest]
    cases c.defect? <;> rfl

theorem firstGroupFlaw_shifted (n : Nat) :
    ∀ (groups : List Grouping) (i : Nat),
      firstGroupFlaw (i + n) groups = (firstGroupFlaw i groups).map (Flaw.shifted n)
  | [], _ => rfl
  | g :: rest, i => by
    rw [firstGroupFlaw, firstGroupFlaw, firstFlaw_shifted, Nat.add_right_comm,
      firstGroupFlaw_shifted n rest]
    cases firstFlaw i 0 g.clauses <;> rfl

/-- The first flaw is one of the groupings before, if they have any. -/
theorem firstGroupFlaw_append (behind : List Grouping) :
    ∀ (before : List Grouping) (i : Nat), firstGroupFlaw i (before ++ behind)
      = (firstGroupFlaw i before).or (firstGroupFlaw (i + before.length) behind)
  | [], _ => rfl
  | g :: rest, i => by
    rw [List.cons_append, firstGroupFlaw, firstGroupFlaw, firstGroupFlaw_append behind rest,
      List.length_cons, Nat.add_comm rest.length, Nat.add_assoc]
    cases firstFlaw i 0 g.clauses <;> rfl

namespace Filter

/-- The flaw of groupings and then others is that of the former, or else that of the latter,
further on. -/
theorem flaw?_append (j : Joiner) (before behind : List Grouping) :
    flaw? ⟨j, before ++ behind⟩
      = (flaw? ⟨j, before⟩).or ((flaw? ⟨j, behind⟩).map (Flaw.shifted before.length)) := by
  show firstGroupFlaw 0 _ = (firstGroupFlaw 0 _).or ((firstGroupFlaw 0 _).map _)
  rw [firstGroupFlaw_append, firstGroupFlaw_shifted]

end Filter

/-! ## Texts -/

/-- Every further text has the separator before it. -/
theorem intercalate_cons (s : String) :
    ∀ (t : String) (ms : List String), s.intercalate (t :: ms) = t ++ String.join (ms.map (s ++ ·))
  | t, [] => by
    rw [String.intercalate_singleton, List.map_nil, String.join_nil, String.append_empty]
  | t, m :: ms => by
    rw [String.intercalate_cons_cons, intercalate_cons s m ms, List.map_cons, String.join_cons]
    simp only [String.append_assoc]

/-- What stands before a text and behind it has the separator on its side. -/
theorem intercalate_around (s t : String) (ms : List String) :
    ∀ ls : List String, s.intercalate (ls ++ t :: ms)
      = String.join (ls.map (· ++ s)) ++ t ++ String.join (ms.map (s ++ ·))
  | [] => by
    rw [List.nil_append, intercalate_cons, List.map_nil, String.join_nil, String.empty_append]
  | l :: ls => by
    rw [List.cons_append, String.intercalate_cons_of_ne_nil (by simp),
      intercalate_around s t ms ls, List.map_cons, String.join_cons]
    simp only [String.append_assoc]

namespace Filter

/-- The texts of groupings with a joiner between them. -/
def row (j : Joiner) (groups : List Grouping) : String :=
  (j.keyword ++ " ").intercalate (groups.map Grouping.text)

/-- Without groupings there is no text, otherwise that of the groupings behind WHERE. -/
theorem sql_eq_row (f : Filter) :
    (Condition.ofPieces f.pieces).sql
      = if f.groups = [] then "" else "WHERE " ++ row f.joiner f.groups :=
  f.sql_pieces

theorem sql_of_groups {j : Joiner} {groups : List Grouping} (h : groups ≠ []) :
    (Condition.ofPieces (pieces ⟨j, groups⟩)).sql = "WHERE " ++ row j groups := by
  rw [sql_eq_row, if_neg h]

theorem row_append (j : Joiner) {before behind : List Grouping} (hbefore : before ≠ [])
    (hbehind : behind ≠ []) :
    row j (before ++ behind) = row j before ++ j.keyword ++ " " ++ row j behind := by
  rw [row, List.map_append, String.intercalate_append_of_ne_nil (by simpa) (by simpa),
    ← String.append_assoc]
  rfl

/-- The text up to a grouping: WHERE and the groupings before, each with the joiner behind it. -/
def lead (j : Joiner) (before : List Grouping) : String :=
  "WHERE " ++ String.join (before.map fun g => g.text ++ (j.keyword ++ " "))

/-- The text from a grouping on: the groupings behind, each with the joiner before it. -/
def trail (j : Joiner) (behind : List Grouping) : String :=
  String.join (behind.map fun g => j.keyword ++ " " ++ g.text)

/-- Every grouping has its text between those of the groupings before and behind. -/
theorem sql_around (j : Joiner) (before : List Grouping) (g : Grouping) (behind : List Grouping) :
    (Condition.ofPieces (pieces ⟨j, before ++ g :: behind⟩)).sql
      = lead j before ++ g.text ++ trail j behind := by
  rw [sql_of_groups (by simp), row, List.map_append, List.map_cons, intercalate_around,
    List.map_map, List.map_map, lead, trail]
  simp only [String.append_assoc]
  rfl

/-- One joiner stands between the texts of two neighbours. -/
theorem sql_between (j : Joiner) (before : List Grouping) (g h : Grouping)
    (behind : List Grouping) :
    (Condition.ofPieces (pieces ⟨j, before ++ g :: h :: behind⟩)).sql
      = lead j before ++ g.text ++ (j.keyword ++ " ") ++ h.text ++ trail j behind := by
  rw [sql_around, trail, List.map_cons, String.join_cons, trail]
  simp only [String.append_assoc]

/-- The values of groupings and then others are those of the former and then of the latter. -/
theorem bindings_append (j : Joiner) (before behind : List Grouping) :
    (Condition.ofPieces (pieces ⟨j, before ++ behind⟩)).bindings
      = (Condition.ofPieces (pieces ⟨j, before⟩)).bindings
        ++ (Condition.ofPieces (pieces ⟨j, behind⟩)).bindings := by
  simp only [bindings_pieces, clauses, List.flatMap_append]

/-- The condition of groupings and then others, from those of both. -/
theorem ofPieces_append (j : Joiner) {before behind : List Grouping} (hbefore : before ≠ [])
    (hbehind : behind ≠ []) :
    Condition.ofPieces (pieces ⟨j, before ++ behind⟩)
      = ⟨(Condition.ofPieces (pieces ⟨j, before⟩)).sql ++ j.keyword ++ " " ++ row j behind,
        (Condition.ofPieces (pieces ⟨j, before⟩)).bindings
          ++ (Condition.ofPieces (pieces ⟨j, behind⟩)).bindings⟩ := by
  have hsql : (Condition.ofPieces (pieces ⟨j, before ++ behind⟩)).sql
      = (Condition.ofPieces (pieces ⟨j, before⟩)).sql ++ j.keyword ++ " " ++ row j behind := by
    rw [sql_of_groups (List.append_ne_nil_of_left_ne_nil hbefore behind), sql_of_groups hbefore,
      row_append j hbefore hbehind]
    simp only [String.append_assoc]
  rw [← hsql, ← bindings_append]

/-- One grouping more adds to the end of the text and of the values. -/
theorem ofPieces_push (f : Filter) (g : Grouping) :
    ∃ text values,
      (Condition.ofPieces (f.push g).pieces).sql = (Condition.ofPieces f.pieces).sql ++ text ∧
      (Condition.ofPieces (f.push g).pieces).bindings
        = (Condition.ofPieces f.pieces).bindings ++ values := by
  obtain ⟨j, groups⟩ := f
  by_cases hne : groups = []
  · rw [sql_eq_row ⟨j, groups⟩, if_pos hne, push, bindings_append]
    exact ⟨_, _, String.empty_append.symm, rfl⟩
  · rw [push, ofPieces_append j hne (List.cons_ne_nil g [])]
    refine ⟨j.keyword ++ " " ++ row j [g], _, ?_, rfl⟩
    simp only [String.append_assoc]

end Filter

/-! ## Groupings behind others -/

/-- Groupings and then others have the flaw of the former, or else that of the latter as many
groupings further on, or else the text of the former, the joiner and the text of the latter
without WHERE, with the values of both. Of any filter, one grouping more only adds to the end of
the text and of the values. -/
theorem condition_append :
    (∀ (j : Joiner) (before behind : List Grouping), before ≠ [] → behind ≠ [] →
      (∀ flaw, Filter.condition ⟨j, before⟩ = .error flaw →
        Filter.condition ⟨j, before ++ behind⟩ = .error flaw) ∧
      (∀ c flaw, Filter.condition ⟨j, before⟩ = .ok c →
        Filter.condition ⟨j, behind⟩ = .error flaw →
        Filter.condition ⟨j, before ++ behind⟩
          = .error ⟨flaw.defect, flaw.grouping + before.length, flaw.clause⟩) ∧
      (∀ c d, Filter.condition ⟨j, before⟩ = .ok c → Filter.condition ⟨j, behind⟩ = .ok d →
        ∃ rest, d.sql = "WHERE " ++ rest ∧
          Filter.condition ⟨j, before ++ behind⟩
            = .ok ⟨c.sql ++ j.keyword ++ " " ++ rest, c.bindings ++ d.bindings⟩)) ∧
    ∀ (f : Filter) (g : Grouping) (c d : Condition), f.condition = .ok c →
      (f.push g).condition = .ok d →
      ∃ text values, d.sql = c.sql ++ text ∧ d.bindings = c.bindings ++ values := by
  constructor
  · intro j before behind hbefore hbehind
    have happend := Filter.flaw?_append j before behind
    refine ⟨fun flaw hflaw => ?_, fun c flaw hc hflaw => ?_, fun c d hc hd => ?_⟩
    · rw [Filter.condition_eq_error_iff] at hflaw ⊢
      rw [happend, hflaw]
      rfl
    · rw [Filter.condition_eq_error_iff] at hflaw ⊢
      rw [happend, (Filter.condition_eq_ok_iff.1 hc).1, hflaw]
      rfl
    · obtain ⟨hcsound, rfl⟩ := Filter.condition_eq_ok_iff.1 hc
      obtain ⟨hdsound, rfl⟩ := Filter.condition_eq_ok_iff.1 hd
      rw [hcsound, hdsound] at happend
      exact ⟨_, Filter.sql_of_groups hbehind, Filter.condition_eq_ok_iff.2
        ⟨happend, (Filter.ofPieces_append j hbefore hbehind).symm⟩⟩
  · intro f g c d hc hd
    rw [(Filter.condition_eq_ok_iff.1 hc).2, (Filter.condition_eq_ok_iff.1 hd).2]
    exact f.ofPieces_push g

/-- An empty grouping and one with several clauses. -/
def frontGroups : List Grouping :=
  [⟨[]⟩, ⟨[{ keys := ["a"], operator := "LIKE", values := ["1"] },
    { joiner := .or, keys := ["b"], operator := "IN", values := ["2", "3"] }]⟩]

/-- Several keys make up the text before the last joiner, which has no text behind it. A flaw in
the second grouping is found in the fourth. -/
theorem condition_append_gaps :
    let behind : List Grouping := [⟨[{ keys := ["c", "d"], values := ["4"] }]⟩, ⟨[]⟩]
    (∃ c, Filter.condition ⟨.or, frontGroups⟩ = .ok c ∧
      c.sql = "WHERE OR ( a LIKE ? OR b IN (?,?) ) " ∧
      Filter.condition ⟨.or, frontGroups ++ behind⟩
        = .ok ⟨c.sql ++ "OR " ++ "( c = ? OR d = ? )OR ", c.bindings ++ ["4", "4"]⟩) ∧
    Filter.condition ⟨.or, frontGroups ++ [⟨[]⟩, ⟨[{ keys := ["e"] }]⟩]⟩
      = .error ⟨.incomplete, 3, 0⟩ := by
  intro behind
  have hfront : Filter.condition ⟨.or, frontGroups⟩ = .ok _ :=
    Filter.condition_of_sound (by decide)
  have hbehind : Filter.condition ⟨.or, behind⟩ = .ok _ := Filter.condition_of_sound (by decide)
  have hflaw : Filter.condition ⟨.or, [⟨[]⟩, ⟨[{ keys := ["e"] }]⟩]⟩
      = .error ⟨.incomplete, 1, 0⟩ := Filter.condition_of_flaw (by decide)
  obtain ⟨-, -, hboth⟩ := condition_append.1 .or frontGroups behind (by decide) (by decide)
  obtain ⟨-, hshifted, -⟩ := condition_append.1 .or frontGroups
    [⟨[]⟩, ⟨[{ keys := ["e"] }]⟩] (by decide) (by decide)
  obtain ⟨rest, hrest, hcondition⟩ := hboth _ _ hfront hbehind
  have htext : rest = "( c = ? OR d = ? )OR " := by
    have hsql : (Condition.ofPieces (Filter.pieces ⟨.or, behind⟩)).sql
        = "WHERE " ++ "( c = ? OR d = ? )OR " := by decide +kernel
    exact (String.append_right_inj "WHERE ").1 (hrest.symm.trans hsql)
  refine ⟨⟨_, hfront, by decide +kernel, ?_⟩, hshifted _ _ hfront hflaw⟩
  rw [hcondition, htext]
  rfl

/-! ## Groupings without clauses -/

/-- The groupings that have clauses. -/
def kept (groups : List Grouping) : List Grouping := groups.filter fun g => !g.clauses.isEmpty

/-- The filter without the groupings that have no clauses. -/
def Filter.pruned (f : Filter) : Filter := { f with groups := kept f.groups }

theorem mem_kept {groups : List Grouping} {g : Grouping} :
    g ∈ kept groups ↔ g ∈ groups ∧ g.clauses ≠ [] := by
  simp [kept]

theorem kept_cons_of_empty {g : Grouping} (h : g.clauses = []) (groups : List Grouping) :
    kept (g :: groups) = kept groups :=
  List.filter_cons_of_neg (by simp [h])

theorem kept_cons_of_ne {g : Grouping} (h : g.clauses ≠ []) (groups : List Grouping) :
    kept (g :: groups) = g :: kept groups :=
  List.filter_cons_of_pos (by simpa using h)

theorem kept_eq_nil_iff {groups : List Grouping} :
    kept groups = [] ↔ ∀ g ∈ groups, g.clauses = [] := by
  simp [kept]

/-- No clause goes with the groupings that have none. -/
theorem flatMap_kept : ∀ groups : List Grouping,
    (kept groups).flatMap (·.clauses) = groups.flatMap (·.clauses)
  | [] => rfl
  | g :: groups => by
    by_cases hg : g.clauses = []
    · rw [kept_cons_of_empty hg, flatMap_kept groups, List.flatMap_cons, hg, List.nil_append]
    · rw [kept_cons_of_ne hg, List.flatMap_cons, flatMap_kept groups, List.flatMap_cons]

theorem Filter.flaw?_pruned {f : Filter} (h : f.flaw? = none) : f.pruned.flaw? = none :=
  flaw?_eq_none_iff.2 fun g hg => flaw?_eq_none_iff.1 h g (mem_kept.1 hg).1

/-- A clause with keys has a text. -/
theorem Clause.layout_ne_empty (operand : Clause → String) {c : Clause} (h : c.keys ≠ []) :
    c.layout operand ≠ "" := by
  have hrow : c.row operand ≠ "" := by
    obtain ⟨k, ks, hks⟩ := List.exists_cons_of_ne_nil h
    rw [row, hks, List.map_cons]
    simp [comparisonLayout]
  unfold layout
  split
  · simp
  · exact hrow

/-- A grouping has a text exactly when it has clauses, provided that these have keys. -/
theorem Grouping.text_eq_empty_iff {g : Grouping} (h : ∀ c ∈ g.clauses, c.keys ≠ []) :
    g.text = "" ↔ g.clauses = [] := by
  constructor
  · intro hempty
    by_contra hne
    obtain ⟨c, rest, hg⟩ := List.exists_cons_of_ne_nil hne
    have hc := Clause.layout_ne_empty Clause.operand (h c (by simp [hg]))
    unfold text layout at hempty
    simp only [hg, row] at hempty
    split at hempty
    · simp at hempty
    · exact hc (String.append_eq_empty_iff.1 hempty).1
  · intro hnil
    rw [text, layout, hnil]
    rfl

namespace Filter

/-- What each grouping adds to the length of the text: its own text and a joiner. -/
theorem length_row (j : Joiner) (g : Grouping) :
    ∀ groups, (row j (g :: groups)).length + (j.keyword ++ " ").length
      = ((g :: groups).map fun g' => g'.text.length + (j.keyword ++ " ").length).sum
  | [] => by simp [row]
  | h :: groups => by
    have hrow : row j (g :: h :: groups) = g.text ++ (j.keyword ++ " ") ++ row j (h :: groups) :=
      String.intercalate_cons_cons
    rw [hrow, List.map_cons, List.sum_cons, ← length_row j h groups, String.length_append,
      String.length_append]
    omega

/-- Groupings that have no clauses add a joiner each. -/
theorem sum_kept (w : Nat) :
    ∀ {groups : List Grouping}, (∀ g ∈ groups, g.clauses = [] → g.text = "") →
      (groups.map fun g => g.text.length + w).sum
        = ((kept groups).map fun g => g.text.length + w).sum
          + groups.countP (·.clauses.isEmpty) * w
  | [], _ => by simp [kept]
  | g :: groups, h => by
    have ih := sum_kept w fun g' hg' => h g' (List.mem_cons_of_mem _ hg')
    rw [List.map_cons, List.sum_cons, ih]
    by_cases hg : g.clauses = []
    · have htext : g.text.length = 0 := by rw [h g (List.mem_cons_self ..) hg]; rfl
      rw [kept_cons_of_empty hg, List.countP_cons_of_pos (by simp [hg]), htext, Nat.succ_mul]
      omega
    · rw [kept_cons_of_ne hg, List.countP_cons_of_neg (by simpa using hg), List.map_cons,
        List.sum_cons]
      omega

/-- Without the groupings that have no clauses the text is shorter by a joiner for each. -/
theorem length_row_kept (j : Joiner) {groups : List Grouping}
    (h : ∀ g ∈ groups, g.clauses = [] → g.text = "") (hne : kept groups ≠ []) :
    (row j groups).length = (row j (kept groups)).length
      + groups.countP (·.clauses.isEmpty) * (j.keyword ++ " ").length := by
  have hgroups : groups ≠ [] := fun hnil => hne (by rw [hnil]; rfl)
  obtain ⟨g, rest, hall⟩ := List.exists_cons_of_ne_nil hgroups
  obtain ⟨g', rest', hkept⟩ := List.exists_cons_of_ne_nil hne
  have hlength := length_row j g rest
  have hlength' := length_row j g' rest'
  have hsum := sum_kept (j.keyword ++ " ").length h
  rw [← hall] at hlength
  rw [← hkept] at hlength'
  omega

/-- The condition loses as much when some grouping has clauses: WHERE stays then. -/
theorem length_sql_kept (j : Joiner) {groups : List Grouping}
    (h : ∀ g ∈ groups, g.clauses = [] → g.text = "") (hne : kept groups ≠ []) :
    (Condition.ofPieces (pieces ⟨j, groups⟩)).sql.length
      = (Condition.ofPieces (pieces ⟨j, kept groups⟩)).sql.length
        + groups.countP (·.clauses.isEmpty) * (j.keyword ++ " ").length := by
  have hgroups : groups ≠ [] := fun hnil => hne (by rw [hnil]; rfl)
  rw [sql_of_groups hgroups, sql_of_groups hne, String.length_append, String.length_append,
    length_row_kept j h hne, Nat.add_assoc]

/-- Groupings without texts leave WHERE and the joiners between them. -/
theorem sql_of_bare (j : Joiner) {groups : List Grouping} (h : ∀ g ∈ groups, g.text = "")
    (hne : groups ≠ []) :
    (Condition.ofPieces (pieces ⟨j, groups⟩)).sql
      = "WHERE " ++ String.join (List.replicate (groups.length - 1) (j.keyword ++ " ")) := by
  obtain ⟨g, rest, rfl⟩ := List.exists_cons_of_ne_nil hne
  have hjoiners : ((rest.map Grouping.text).map (j.keyword ++ " " ++ ·))
      = List.replicate rest.length (j.keyword ++ " ") := by
    refine List.eq_replicate_iff.2 ⟨by simp, fun t ht => ?_⟩
    simp only [List.map_map, List.mem_map, Function.comp_apply] at ht
    obtain ⟨g', hg', rfl⟩ := ht
    rw [h g' (List.mem_cons_of_mem g hg'), String.append_empty]
  rw [sql_of_groups hne, row, List.map_cons, intercalate_cons, hjoiners,
    h g (List.mem_cons_self ..), String.empty_append, List.length_cons, Nat.add_sub_cancel]

/-- The text stays as it is when all groupings have clauses, and only then. -/
theorem sql_kept_eq_iff (j : Joiner) {groups : List Grouping}
    (h : ∀ g ∈ groups, g.clauses = [] → g.text = "") :
    (Condition.ofPieces (pieces ⟨j, kept groups⟩)).sql
        = (Condition.ofPieces (pieces ⟨j, groups⟩)).sql
      ↔ ∀ g ∈ groups, g.clauses ≠ [] := by
  constructor
  · intro hsame g hg hnil
    by_cases hne : kept groups = []
    · rw [hne, sql_of_groups (List.ne_nil_of_mem hg)] at hsame
      have hwhere : "" ≠ "WHERE " ++ row j groups := by simp
      exact hwhere hsame
    · -- The lost joiner would have to be made up for by another text.
      have hlength := length_sql_kept j h hne
      have hcount : 0 < groups.countP (·.clauses.isEmpty) :=
        List.countP_pos_iff.2 ⟨g, hg, by simp [hnil]⟩
      have hjoiner : 0 < (j.keyword ++ " ").length := by cases j <;> decide
      have hlost := Nat.mul_pos hcount hjoiner
      rw [hsame] at hlength
      omega
  · intro hfull
    have hkept : kept groups = groups :=
      List.filter_eq_self.2 fun g hg => by simpa using hfull g hg
    rw [hkept]

end Filter

/-- Without the groupings that have no clauses a filter binds the same values, and its text has
the same texts of groupings in the same order with a joiner between each two neighbours; that of
a grouping is empty exactly when it has no clauses. So the text stays as it is exactly when every
grouping has clauses. Otherwise a joiner is lost for each that has none, if one of the others is
left; where no grouping has clauses, all there was are WHERE and the joiners between them, one
fewer than the groupings. A text is empty only for want of groupings. -/
theorem condition_pruned {f : Filter} {c : Condition} (h : f.condition = .ok c) :
    ∃ c', f.pruned.condition = .ok c' ∧ c'.bindings = c.bindings ∧
      (c.sql = if f.isEmpty then "" else "WHERE " ++ Filter.row f.joiner f.groups) ∧
      (c'.sql = if ∀ g ∈ f.groups, g.clauses = [] then ""
        else "WHERE " ++ Filter.row f.joiner f.pruned.groups) ∧
      (c'.sql = c.sql ↔ ∀ g ∈ f.groups, g.clauses ≠ []) ∧
      ((∃ g ∈ f.groups, g.clauses ≠ []) → c.sql.length = c'.sql.length
        + f.groups.countP (·.clauses.isEmpty) * (f.joiner.keyword ++ " ").length) ∧
      (f.groups ≠ [] → (∀ g ∈ f.groups, g.clauses = []) → c.sql = "WHERE "
        ++ String.join (List.replicate (f.groups.length - 1) (f.joiner.keyword ++ " "))) ∧
      (∀ before g g' behind, f.groups = before ++ g :: g' :: behind →
        c.sql = Filter.lead f.joiner before ++ g.text ++ (f.joiner.keyword ++ " ") ++ g'.text
          ++ Filter.trail f.joiner behind) ∧
      ∀ before g behind, f.groups = before ++ g :: behind →
        c.sql = Filter.lead f.joiner before ++ g.text ++ Filter.trail f.joiner behind ∧
        (g.text = "" ↔ g.clauses = []) := by
  obtain ⟨hflaw, rfl⟩ := Filter.condition_eq_ok_iff.1 h
  obtain ⟨j, groups⟩ := f
  have htext : ∀ g ∈ groups, g.text = "" ↔ g.clauses = [] := fun g hg =>
    Grouping.text_eq_empty_iff fun cl hcl =>
      (Clause.defect?_eq_none_iff.1 (Filter.flaw?_eq_none_iff.1 hflaw g hg cl hcl)).1
  have hbare : ∀ g ∈ groups, g.clauses = [] → g.text = "" := fun g hg => (htext g hg).2
  have hsql := Filter.sql_eq_row ⟨j, groups⟩
  have hpruned := Filter.sql_eq_row (Filter.pruned ⟨j, groups⟩)
  refine ⟨_, Filter.condition_of_sound (Filter.flaw?_pruned hflaw), ?values, ?text, ?prunedText,
    ?same, ?lost, ?none, ?neighbours, ?each⟩
  case values =>
    rw [bindings_pieces, bindings_pieces, Filter.clauses, Filter.pruned, flatMap_kept]
    rfl
  case text => simpa only [Filter.isEmpty_iff] using hsql
  case prunedText => simpa only [Filter.pruned, kept_eq_nil_iff] using hpruned
  case same => exact Filter.sql_kept_eq_iff j hbare
  case lost =>
    rintro ⟨g, hg, hne⟩
    exact Filter.length_sql_kept j hbare fun hnil => hne (kept_eq_nil_iff.1 hnil g hg)
  case none =>
    intro hne hnone
    exact Filter.sql_of_bare j (fun g hg => hbare g hg (hnone g hg)) hne
  case neighbours =>
    rintro before g g' behind rfl
    exact Filter.sql_between j before g g' behind
  case each =>
    rintro before g behind rfl
    exact ⟨Filter.sql_around j before g behind, htext g (by simp)⟩

/-- One grouping with a clause among some that have none. -/
def gappyFilter : Filter :=
  { joiner := .or
    groups := [⟨[]⟩, ⟨[]⟩, ⟨[{ keys := ["type"], values := ["a"] }]⟩, ⟨[]⟩] }

/-- Two joiners are lost before the clause and one behind it. -/
theorem condition_pruned_gappy :
    ∃ c, gappyFilter.condition = .ok c ∧ c.sql = "WHERE OR OR type = ? OR " ∧
      ∃ c', gappyFilter.pruned.condition = .ok c' ∧ c'.sql = "WHERE type = ? " ∧
        c'.bindings = ["a"] := by
  have h : gappyFilter.condition = .ok _ := Filter.condition_of_sound (by decide)
  obtain ⟨c', hc', hbindings, hsql, hpruned, -⟩ := condition_pruned h
  exact ⟨_, h, hsql.trans (by decide +kernel), c', hc', hpruned.trans (by decide +kernel),
    hbindings.trans (by decide)⟩

/-- Groupings without clauses are not without effect: a joiner follows WHERE, another joiner or
ends the text, and WHERE stands alone when there is no other grouping. -/
theorem empty_groupings_leave_joiners :
    (∃ c c', gappyFilter.condition = .ok c ∧ gappyFilter.pruned.condition = .ok c' ∧
      c.sql = "WHERE OR OR type = ? OR " ∧ c'.sql ≠ c.sql) ∧
    ∃ c, Filter.condition ⟨.and, [⟨[]⟩]⟩ = .ok c ∧ c.sql = "WHERE " := by
  refine ⟨⟨_, _, Filter.condition_of_sound (by decide), Filter.condition_of_sound (by decide),
    by decide +kernel, by decide +kernel⟩, _, Filter.condition_of_sound (by decide),
    by decide +kernel⟩

end Inventory.Predicate
