import Inventory.Proofs.Predicate.Writing
import Inventory.Proofs.Sql.Grammar
import Mathlib.Data.List.SplitBy

/-!
# What a condition says

Once comparisons are true or false, so is a filter: a clause is true when it holds of one of its
keys, a grouping when all clauses of one of its runs are true (OR begins a run, AND goes on with
it), and the joiner of the filter says whether all groupings have to be true or one. The text of a
condition is parsed as a formula that has the truth of the filter, and no other. Main statements:
`says_chain` (what joiners make of factors in a row) and `condition_says` (what the whole
condition says).
-/

namespace Inventory.Predicate

open Sql (Bound Formula Operand Parses Rank Reads Token Wordy)

/-! ## The truth of filters -/

/-- The comparison of a key in a clause. -/
def Clause.comparison (c : Clause) (key : String) : Bound :=
  ⟨key ++ " " ++ c.comparator ++ (Operand.ofCount c.values.length).text, c.values⟩

/-- A clause holds of one of its keys. -/
def Clause.truth (holds : Bound → Bool) (c : Clause) : Bool :=
  c.keys.any fun k => holds (c.comparison k)

/-- All clauses of one run are true. OR begins a run; the joiner of the first clause is of no
effect. -/
def Grouping.truth (holds : Bound → Bool) (g : Grouping) : Bool :=
  (g.clauses.splitBy fun _ c => c.joiner == .and).any fun run => run.all (·.truth holds)

/-- All groupings are true or one is, as the joiner says. -/
def Filter.truth (holds : Bound → Bool) (f : Filter) : Bool :=
  match f.joiner with
  | .and => f.groups.all (·.truth holds)
  | .or => f.groups.any (·.truth holds)

/-- All keys and operators are made of words. -/
def Filter.Wordy (f : Filter) : Prop :=
  ∀ g ∈ f.groups, ∀ c ∈ g.clauses, (∀ k ∈ c.keys, Sql.Wordy k) ∧ Sql.Wordy c.comparator

instance (f : Filter) : Decidable f.Wordy :=
  inferInstanceAs (Decidable (∀ g ∈ f.groups, ∀ c ∈ g.clauses, _))

/-! ## Pieces as tokens -/

/-- The tokens of pieces in a row. -/
def tokensOf (ps : List Piece) : List Token := ps.flatMap fun p => Sql.tokens p.sql

/-- The values that pieces in a row bind. -/
def bindingsOf (ps : List Piece) : List String := ps.flatMap Piece.bindings

/-- Every piece ends a token. -/
theorem complete_sql (p : Piece) : Sql.Complete p.sql := by
  rcases p.spaced_sql with hnone | hspaced
  · exact .inl hnone
  · exact hspaced.complete

/-- The text of pieces in a row has their tokens. -/
theorem tokens_ofPieces : ∀ ps, Sql.tokens (Condition.ofPieces ps).sql = tokensOf ps
  | [] => rfl
  | p :: ps => by
    rw [Condition.ofPieces, Sql.tokens_append (complete_sql p), tokens_ofPieces ps]
    rfl

/-- A list of placeholders inside a longer text. -/
theorem tokensAfter_marks (rest : List Char) :
    ∀ n, Sql.tokensAfter [] ([','].intercalate (List.replicate (n + 1) ['?']) ++ rest)
      = .mark :: (List.replicate n [.comma, .mark]).flatten ++ Sql.tokensAfter [] rest
  | 0 => rfl
  | n + 1 => by
    rw [List.replicate_succ, List.replicate_succ, List.intercalate_cons_cons,
      ← List.replicate_succ, List.append_assoc]
    show Token.mark :: .comma :: Sql.tokensAfter [] (_ ++ rest) = _
    rw [tokensAfter_marks rest n]
    rfl

/-- Placeholders are read as an operand. -/
theorem tokens_placeholders (n : Nat) :
    Sql.tokens (Piece.placeholders n) = (Operand.ofCount n).tokens := by
  match n with
  | 0 => rfl
  | 1 => rfl
  | n + 2 =>
    rw [Sql.tokens, Piece.placeholders_toList]
    show Token.opening :: Sql.tokensAfter [] _ = _
    rw [tokensAfter_marks]
    rfl

/-! ## Pieces as formulas -/

/-- The pieces are read as a formula that has the truth, once its placeholders have the values
that the pieces bind. -/
def Says (r : Rank) (ps : List Piece) (truth : (Bound → Bool) → Bool) : Prop :=
  ∃ p b, Reads r (tokensOf ps) p ∧
    (∀ rest, p.bind (bindingsOf ps ++ rest) = some (b, rest)) ∧ ∀ holds, b.eval holds = truth holds

theorem Says.conjunction {ps : List Piece} {t : (Bound → Bool) → Bool} :
    Says .factor ps t → Says .conjunction ps t
  | ⟨p, b, hp, hb⟩ => ⟨p, b, .factor hp, hb⟩

theorem Says.condition {ps : List Piece} {t : (Bound → Bool) → Bool} :
    Says .conjunction ps t → Says .condition ps t
  | ⟨p, b, hp, hb⟩ => ⟨p, b, .conjunction hp, hb⟩

/-- Values are bound in one part after the other. -/
theorem bind_joined {p q : Formula Sql.Comparison} {b c : Formula Bound} {vs us : List String}
    (hb : ∀ rest, p.bind (vs ++ rest) = some (b, rest))
    (hc : ∀ rest, q.bind (us ++ rest) = some (c, rest)) (j : Joiner) (rest : List String) :
    (Formula.joined j p q).bind (vs ++ us ++ rest) = some (.joined j b c, rest) := by
  rw [Formula.bind, List.append_assoc, hb]
  show (q.bind (us ++ rest)).map _ = _
  rw [hc]
  rfl

theorem tokensOf_joined (ps qs : List Piece) (j : Joiner) :
    tokensOf (ps ++ .joiner j :: qs) = tokensOf ps ++ .joiner j :: tokensOf qs := by
  rw [tokensOf, List.flatMap_append, List.flatMap_cons]
  cases j <;> rfl

theorem bindingsOf_joined (ps qs : List Piece) (j : Joiner) :
    bindingsOf (ps ++ .joiner j :: qs) = bindingsOf ps ++ bindingsOf qs := by
  rw [bindingsOf, List.flatMap_append, List.flatMap_cons]
  rfl

/-- Whatever the grammar says of two parts and a joiner is said of their pieces. -/
theorem Says.joined {r r' : Rank} {j : Joiner} {ps qs : List Piece}
    {t u : (Bound → Bool) → Bool} (hp : Says r ps t) (hq : Says r' qs u)
    (hr : ∀ {ts us p q}, Reads r ts p → Reads r' us q →
      Reads r (ts ++ .joiner j :: us) (.joined j p q)) :
    Says r (ps ++ .joiner j :: qs) fun holds => Sql.truthOf j (t holds) (u holds) := by
  obtain ⟨p, b, hp, hb, ht⟩ := hp
  obtain ⟨q, c, hq, hc, hu⟩ := hq
  refine ⟨.joined j p q, .joined j b c, ?_, ?_, ?_⟩
  · rw [tokensOf_joined]
    exact hr hp hq
  · rw [bindingsOf_joined]
    exact bind_joined hb hc j
  · intro holds
    rw [Formula.eval, ht, hu]

/-- AND goes on with a conjunction. -/
theorem Says.and {ps qs : List Piece} {t u : (Bound → Bool) → Bool} (hp : Says .conjunction ps t)
    (hq : Says .factor qs u) :
    Says .conjunction (ps ++ .joiner .and :: qs) fun holds => t holds && u holds :=
  hp.joined hq .and

/-- OR goes on with a condition. -/
theorem Says.or {ps qs : List Piece} {t u : (Bound → Bool) → Bool} (hp : Says .condition ps t)
    (hq : Says .conjunction qs u) :
    Says .condition (ps ++ .joiner .or :: qs) fun holds => t holds || u holds :=
  hp.joined hq .or

/-- Parentheses make a condition a factor. -/
theorem Says.group {ps : List Piece} {t : (Bound → Bool) → Bool} (h : Says .condition ps t)
    {close : Piece} (hclose : close = .closeGroup ∨ close = .closeKeys) :
    Says .factor (.openGroup :: (ps ++ [close])) t := by
  obtain ⟨p, b, hp, hb, ht⟩ := h
  have htokens : tokensOf (.openGroup :: (ps ++ [close]))
      = .opening :: tokensOf ps ++ [.closing] := by
    rw [tokensOf, List.flatMap_cons, List.flatMap_append]
    rcases hclose with rfl | rfl <;> rfl
  have hbindings : bindingsOf (.openGroup :: (ps ++ [close])) = bindingsOf ps := by
    rw [bindingsOf, List.flatMap_cons, List.flatMap_append]
    rcases hclose with rfl | rfl <;> exact List.append_nil _
  refine ⟨p, b, ?_, ?_, ht⟩
  · rw [htokens]
    exact .group hp
  · rw [hbindings]
    exact hb

/-- The words of a key and of an operator make up the text of its comparison. -/
theorem text_comparison (c : Clause) (k : String) :
    Sql.Comparison.text ⟨Sql.words k ++ Sql.words c.comparator, .ofCount c.values.length⟩
      = (c.comparison k).text := by
  rw [Sql.Comparison.text, List.map_append, String.intercalate_append_of_ne_nil,
    Sql.intercalate_words, Sql.intercalate_words]
  · rfl
  · exact fun h => Sql.words_ne_nil k (List.map_eq_nil_iff.1 h)
  · exact fun h => Sql.words_ne_nil c.comparator (List.map_eq_nil_iff.1 h)

/-- A key is read as its comparison. -/
theorem says_key {c : Clause} {k : String} (hk : Wordy k) (hc : Wordy c.comparator) :
    Says .factor (c.keyPieces k) fun holds => holds (c.comparison k) := by
  have htokens : tokensOf (c.keyPieces k)
      = (Sql.words k ++ Sql.words c.comparator).map .word
        ++ (Operand.ofCount c.values.length).tokens := by
    show Sql.tokens (k ++ " ") ++ (Sql.tokens (c.comparator ++ " ")
      ++ (Sql.tokens (Piece.placeholders c.values.length) ++ [])) = _
    rw [Sql.tokens_append_space, Sql.tokens_append_space, Sql.tokens_of_words hk,
      Sql.tokens_of_words hc, tokens_placeholders, List.append_nil, List.map_append,
      List.append_assoc]
  have hbindings : bindingsOf (c.keyPieces k) = c.values := by
    show [] ++ ([] ++ (c.values ++ [])) = _
    rw [List.append_nil, List.nil_append, List.nil_append]
  refine ⟨.part ⟨Sql.words k ++ Sql.words c.comparator, .ofCount c.values.length⟩,
    .part (c.comparison k), ?_, ?_, fun holds => rfl⟩
  · rw [htokens]
    exact .comparison (c := ⟨_, _⟩) (List.append_ne_nil_of_left_ne_nil (Sql.words_ne_nil k) _)
  · intro rest
    rw [hbindings, Formula.bind, text_comparison, Operand.marks_ofCount, List.take_left,
      List.drop_left, if_pos (by simp)]
    rfl

/-! ## Factors in a row -/

/-- The truth of a conjunction that further factors follow: AND takes the next into the
conjunction, OR begins another. -/
def chainTruth : Bool → List (Joiner × Bool) → Bool
  | t, [] => t
  | t, (.and, u) :: rest => chainTruth (t && u) rest
  | t, (.or, u) :: rest => t || chainTruth u rest

/-- Right before a conjunction the pieces make up a condition with it: there are none of them, or
OR stands at their end. -/
def Leads (front : List Piece) (before : (Bound → Bool) → Bool) : Prop :=
  ∀ {ps : List Piece} {t : (Bound → Bool) → Bool}, Says .conjunction ps t →
    Says .condition (front ++ ps) fun holds => before holds || t holds

theorem leads_nil : Leads [] fun _ => false := fun h => h.condition

theorem Leads.or {front ps : List Piece} {before t : (Bound → Bool) → Bool}
    (h : Leads front before) (hp : Says .conjunction ps t) :
    Leads (front ++ ps ++ [.joiner .or]) fun holds => before holds || t holds := by
  intro qs u hq
  rw [List.append_assoc, List.singleton_append]
  exact (h hp).or hq

section
variable {α : Type} {join : α → Joiner} {pieces : α → List Piece}
  {truth : α → (Bound → Bool) → Bool}

/-- Factors go on with a conjunction or begin others. -/
theorem Leads.chain :
    ∀ {xs : List α}, (∀ x ∈ xs, Says .factor (pieces x) (truth x)) →
      ∀ {front ps : List Piece} {before t : (Bound → Bool) → Bool},
        Leads front before → Says .conjunction ps t →
          Says .condition (front ++ (ps ++ xs.flatMap fun x => .joiner (join x) :: pieces x))
            fun holds => before holds ||
              chainTruth (t holds) (xs.map fun x => (join x, truth x holds))
  | [], _, front, ps, before, t, h, hp => by
    rw [List.flatMap_nil, List.append_nil]
    exact h hp
  | x :: xs, hxs, front, ps, before, t, h, hp => by
    have hx := hxs x (List.mem_cons_self ..)
    have hrest : ∀ y ∈ xs, Says .factor (pieces y) (truth y) :=
      fun y hy => hxs y (List.mem_cons_of_mem _ hy)
    rw [List.flatMap_cons]
    simp only [List.map_cons]
    cases hj : join x with
    | and =>
      -- The conjunction takes the factor in.
      have hchain := Leads.chain hrest h (hp.and hx)
      rw [List.append_assoc] at hchain
      exact hchain
    | or =>
      -- The conjunction is complete and moves to the front; the factor begins another.
      have hchain := Leads.chain hrest (h.or hp) hx.conjunction
      simp only [List.append_assoc, List.singleton_append, Bool.or_assoc] at hchain
      exact hchain

variable (join) in
/-- Factors in a row make up a condition. -/
theorem says_chain {xs : List α} (hxs : ∀ x ∈ xs, Says .factor (pieces x) (truth x))
    {ps : List Piece} {t : (Bound → Bool) → Bool} (hp : Says .factor ps t) :
    Says .condition (ps ++ xs.flatMap fun x => .joiner (join x) :: pieces x)
      fun holds => chainTruth (t holds) (xs.map fun x => (join x, truth x holds)) :=
  leads_nil.chain hxs hp.conjunction

end

theorem chainTruth_or {α : Type} (u : α → Bool) :
    ∀ (xs : List α) (t : Bool), chainTruth t (xs.map fun x => (.or, u x)) = (t || xs.any u)
  | [], t => (Bool.or_false t).symm
  | x :: xs, t => by rw [List.map_cons, chainTruth, chainTruth_or u xs, List.any_cons]

theorem chainTruth_and {α : Type} (u : α → Bool) :
    ∀ (xs : List α) (t : Bool), chainTruth t (xs.map fun x => (.and, u x)) = (t && xs.all u)
  | [], t => (Bool.and_true t).symm
  | x :: xs, t => by
    rw [List.map_cons, chainTruth, chainTruth_and u xs, List.all_cons, Bool.and_assoc]

/-- A chain is true when one of its runs is true as a whole: `run` is the run that goes on, with
its members in reverse, `runs` are those before it. -/
theorem chainTruth_loop {α : Type} (join : α → Joiner) (u : α → Bool) :
    ∀ (xs : List α) (x : α) (run : List α) (runs : List (List α)),
      ((List.splitBy.loop (fun _ y => join y == .and) xs x run runs).any (·.all u))
        = (runs.any (·.all u) ||
          chainTruth (run.all u && u x) (xs.map fun y => (join y, u y)))
  | [], x, run, runs => by
    simp [List.splitBy.loop, chainTruth, Bool.or_comm, Bool.and_comm]
  | y :: xs, x, run, runs => by
    rw [List.splitBy.loop, List.map_cons]
    cases hj : join y with
    | and =>
      have ih := chainTruth_loop join u xs y (x :: run) runs
      rw [List.all_cons, Bool.and_comm (u x)] at ih
      exact ih
    | or =>
      have ih := chainTruth_loop join u xs y [] ((x :: run).reverse :: runs)
      rw [List.any_cons, List.all_reverse, List.all_cons, List.all_nil, Bool.true_and] at ih
      refine ih.trans ?_
      rw [chainTruth, Bool.and_comm (u x), Bool.or_assoc, Bool.or_left_comm]

/-! ## Filters -/

/-- Further keys are alternatives. -/
theorem says_alternatives {c : Clause} {k : String} {ks : List String}
    (hk : ∀ k' ∈ k :: ks, Wordy k') (hc : Wordy c.comparator) :
    Says .condition (c.alternatives (k :: ks))
      fun holds => (k :: ks).any fun k' => holds (c.comparison k') := by
  have hfurther : ∀ k' ∈ ks, Says .factor (c.keyPieces k') fun holds => holds (c.comparison k') :=
    fun k' hk' => says_key (hk k' (List.mem_cons_of_mem _ hk')) hc
  have h := says_chain (fun _ => .or) hfurther (says_key (hk k (List.mem_cons_self ..)) hc)
  simp only [chainTruth_or] at h
  rw [Clause.alternatives, Clause.furtherPieces_eq]
  exact h

/-- A clause with keys is a factor. -/
theorem says_clause {c : Clause} (hne : c.keys ≠ []) (hk : ∀ k ∈ c.keys, Wordy k)
    (hc : Wordy c.comparator) : Says .factor c.pieces (c.truth ·) := by
  unfold Clause.pieces Clause.truth
  match hkeys : c.keys with
  | [] => exact absurd hkeys hne
  | [k] =>
    rw [hkeys] at hk
    have h := says_key (hk k (List.mem_cons_self ..)) hc
    simpa [Clause.alternatives, Clause.furtherPieces] using h
  | k :: k' :: ks =>
    rw [hkeys] at hk
    rw [if_pos (by simp)]
    exact (says_alternatives hk hc).group (.inr rfl)

/-- The runs of clauses are joined by OR, the clauses of a run by AND. -/
theorem truth_grouping (holds : Bound → Bool) (c : Clause) (cs : List Clause) :
    Grouping.truth holds ⟨c :: cs⟩
      = chainTruth (c.truth holds) (cs.map fun d => (d.joiner, d.truth holds)) := by
  have h := chainTruth_loop (·.joiner) (Clause.truth holds) cs c [] []
  rw [List.any_nil, List.all_nil, Bool.true_and, Bool.false_or] at h
  exact h

/-- A grouping with clauses is a factor. -/
theorem says_grouping {g : Grouping} (hne : g.clauses ≠ [])
    (hg : ∀ c ∈ g.clauses, Says .factor c.pieces (c.truth ·)) :
    Says .factor g.pieces (g.truth ·) := by
  obtain ⟨clauses⟩ := g
  obtain ⟨c, cs, rfl⟩ := List.exists_cons_of_ne_nil hne
  simp only [truth_grouping]
  have hc := hg c (List.mem_cons_self ..)
  cases cs with
  | nil =>
    have hpieces : Grouping.pieces ⟨[c]⟩ = c.pieces := List.append_nil _
    rw [hpieces]
    exact hc
  | cons d ds =>
    have hchain := says_chain (·.joiner)
      (fun e he => hg e (List.mem_cons_of_mem _ he)) hc
    rw [← Grouping.furtherPieces_eq] at hchain
    rw [Grouping.pieces, if_pos (by simp)]
    exact hchain.group (.inl rfl)

/-- The joiner of a filter joins all its groupings. -/
theorem truth_filter (holds : Bound → Bool) (j : Joiner) (g : Grouping) (gs : List Grouping) :
    Filter.truth holds ⟨j, g :: gs⟩
      = chainTruth (g.truth holds) (gs.map fun g' => (j, g'.truth holds)) := by
  cases j with
  | and => rw [chainTruth_and]; rfl
  | or => rw [chainTruth_or]; rfl

/-- Groupings in a row are a condition. -/
theorem says_groupings {j : Joiner} {g : Grouping} {gs : List Grouping}
    (hg : ∀ g' ∈ g :: gs, Says .factor g'.pieces (g'.truth ·)) :
    Says .condition (g.pieces ++ Filter.furtherPieces j gs) (Filter.truth · ⟨j, g :: gs⟩) := by
  simp only [truth_filter]
  rw [Filter.furtherPieces_eq]
  exact says_chain (fun _ => j) (fun g' hg' => hg g' (List.mem_cons_of_mem _ hg'))
    (hg g (List.mem_cons_self ..))

/-- The text of a filter of words is parsed as one formula and as no other. Its placeholders take
the bound values one by one, with none missing and none left, and it is true exactly when the
filter is, whatever comparisons hold. -/
theorem condition_says {f : Filter} {c : Condition} (hc : f.condition = .ok c)
    (hne : f.groups ≠ []) (hfull : ∀ g ∈ f.groups, g.clauses ≠ []) (hw : f.Wordy) :
    ∃ p b, (Parses c.sql p ∧ ∀ q, Parses c.sql q → q = p) ∧ p.bind c.bindings = some (b, []) ∧
      ∀ holds, b.eval holds = f.truth holds := by
  obtain ⟨hflaw, rfl⟩ := Filter.condition_eq_ok_iff.1 hc
  obtain ⟨j, groups⟩ := f
  obtain ⟨g, gs, rfl⟩ := List.exists_cons_of_ne_nil hne
  -- A clause without keys would be a flaw.
  have hkeys : ∀ g' ∈ g :: gs, ∀ c ∈ g'.clauses, c.keys ≠ [] := fun g' hg' c hc =>
    (Clause.defect?_eq_none_iff.1 (Filter.flaw?_eq_none_iff.1 hflaw g' hg' c hc)).1
  have hsays : ∀ g' ∈ g :: gs, Says .factor g'.pieces (g'.truth ·) := fun g' hg' =>
    says_grouping (hfull g' hg') fun c hc =>
      says_clause (hkeys g' hg' c hc) (hw g' hg' c hc).1 (hw g' hg' c hc).2
  obtain ⟨p, b, hp, hb, ht⟩ := says_groupings (j := j) hsays
  have hparses : Parses (Condition.ofPieces (Filter.pieces ⟨j, g :: gs⟩)).sql p := by
    refine ⟨_, ?_, hp⟩
    rw [tokens_ofPieces]
    rfl
  refine ⟨p, b, ⟨hparses, fun q hq => hq.unique hparses⟩, ?_, ht⟩
  rw [Condition.ofPieces_bindings]
  have h := hb []
  rw [List.append_nil] at h
  exact h

/-- A filter with every kind of clause, in which AND and OR alternate. -/
def mixedFilter : Filter :=
  { joiner := .or
    groups := [
      ⟨[{ keys := ["hostname", "ip"], operator := "LIKE", values := ["%a%"] },
        { joiner := .or, keys := ["type"], operator := "in", values := ["x", "y"] },
        { keys := ["committer"], operator := "IS NOT NULL" }]⟩,
      ⟨[{ keys := ["type"], values := ["z"] }]⟩] }

/-- AND takes in the third clause before OR does the second. -/
theorem condition_says_mixed :
    ∃ c, mixedFilter.condition = .ok c ∧ c.bindings = ["%a%", "%a%", "x", "y", "z"] ∧
      mixedFilter.Wordy ∧
      ∃ p b, (Parses c.sql p ∧ ∀ q, Parses c.sql q → q = p) ∧ p.bind c.bindings = some (b, []) ∧
        ∀ holds, b.eval holds =
          ((holds ⟨"hostname LIKE ?", ["%a%"]⟩ || holds ⟨"ip LIKE ?", ["%a%"]⟩ ||
            holds ⟨"type in (?,?)", ["x", "y"]⟩ && holds ⟨"committer IS NOT NULL", []⟩) ||
            holds ⟨"type = ?", ["z"]⟩) := by
  have h : mixedFilter.condition = .ok _ := Filter.condition_of_sound (by decide)
  have hw : mixedFilter.Wordy := by decide
  obtain ⟨p, b, hp, hb, ht⟩ := condition_says h (by decide) (by decide) hw
  refine ⟨_, h, by decide, hw, p, b, hp, hb, fun holds => ?_⟩
  have hor : (Joiner.or == Joiner.and) = false := rfl
  rw [ht]
  simp [hor, mixedFilter, Filter.truth, Grouping.truth, Clause.truth, List.splitBy,
    List.splitBy.loop, Clause.comparison, Clause.comparator, Operand.ofCount, Operand.text,
    List.replicate_succ]

end Inventory.Predicate
