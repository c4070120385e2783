import Inventory.Predicate.Condition
import Inventory.Proofs.Except
import Inventory.Proofs.Sql.Token

/-!
# How a condition is written

The text of a condition grows step by step. A clause is looked at before anything of it is put
down, so the text of a filter with a flaw is given up halfway, and the joiner of a further clause is
put down only if there is more than WHERE before it, which there always is. After every step the
text ends in a blank or in a closing parenthesis. Main statements: `Filter.run_steps` (the steps
come to the condition of a filter, or to its flaw), `spaced_run` (what a run of steps keeps),
`Filter.Reaches.spaced` (what stands before a joiner, also in a text that is given up later) and
`Filter.Reaches.perform` (no joiner is left out).
-/

namespace Inventory.Predicate

/-! ## Texts that grow -/

namespace Condition

/-- The condition with a piece more. -/
def put (c : Condition) (p : Piece) : Condition := ⟨c.sql ++ p.sql, c.bindings ++ p.bindings⟩

/-- The condition with more pieces. -/
def extend (c : Condition) (ps : List Piece) : Condition := ps.foldl put c

theorem extend_append (c : Condition) (ps qs : List Piece) :
    c.extend (ps ++ qs) = (c.extend ps).extend qs :=
  List.foldl_append

/-- What pieces add is what they make up by themselves. -/
theorem extend_eq :
    ∀ (ps : List Piece) (c : Condition),
      c.extend ps = ⟨c.sql ++ (ofPieces ps).sql, c.bindings ++ (ofPieces ps).bindings⟩
  | [], c => by
    show c = ⟨c.sql ++ "", c.bindings ++ []⟩
    rw [String.append_empty, List.append_nil]
  | p :: ps, c => by
    show (c.put p).extend ps = _
    rw [extend_eq ps, put, ofPieces, String.append_assoc, List.append_assoc]

theorem extend_empty (ps : List Piece) : extend {} ps = ofPieces ps := by
  rw [extend_eq]
  show (⟨"" ++ (ofPieces ps).sql, [] ++ (ofPieces ps).bindings⟩ : Condition) = _
  rw [String.empty_append, List.nil_append]

/-- How much of the text there is, in bytes. -/
def size (c : Condition) : Nat := c.sql.utf8ByteSize

theorem size_extend (c : Condition) (ps : List Piece) : c.size ≤ (c.extend ps).size := by
  rw [extend_eq, size, size, String.utf8ByteSize_append]
  exact Nat.le_add_right _ _

end Condition

/-! ## Steps -/

/-- A step of the writing of a condition. -/
inductive Step where
  /-- Puts a piece behind the text. -/
  | put (p : Piece)
  /-- Puts the joiner of a further clause behind the text, if there is more than WHERE. -/
  | join (j : Joiner)
  /-- Looks at a clause of a grouping before it is put down. -/
  | check (c : Clause) (grouping clause : Nat)

/-- The step is to put the joiner down. -/
def Step.Joins (s : Step) (j : Joiner) : Prop := s = .put (.joiner j) ∨ s = .join j

/-- What a step makes of the text so far, if it does not find a flaw. -/
def Step.perform (c : Condition) : Step → Except Flaw Condition
  | .put p => .ok (c.put p)
  | .join j => .ok (if "WHERE ".utf8ByteSize < c.size then c.put (.joiner j) else c)
  | .check cl grouping clause =>
    match cl.defect? with
    | some defect => .error ⟨defect, grouping, clause⟩
    | none => .ok c

/-- All that a step can do to the text is to put a piece behind it. -/
theorem Step.perform_eq_ok {s : Step} {c c' : Condition} (h : s.perform c = .ok c') :
    c' = c ∨ ∃ p, c' = c.put p := by
  cases s with
  | put p => exact .inr ⟨p, (Except.ok.inj h).symm⟩
  | join j =>
    have h := Except.ok.inj h
    split at h
    · exact .inr ⟨.joiner j, h.symm⟩
    · exact .inl h.symm
  | check cl grouping clause =>
    simp only [perform] at h
    split at h
    · contradiction
    · exact .inl (Except.ok.inj h).symm

/-- Performs steps one after the other, up to the first flaw. -/
def run (steps : List Step) (c : Condition) : Except Flaw Condition := steps.foldlM Step.perform c

/-- The steps of pieces that are put down whatever stands before. -/
def Step.puts (ps : List Piece) : List Step := ps.map .put

namespace Grouping

/-- The steps of further clauses, from an index on. -/
def furtherSteps (grouping : Nat) : Nat → List Clause → List Step
  | _, [] => []
  | i, c :: rest =>
    .check c grouping i :: .join c.joiner ::
      (Step.puts c.pieces ++ furtherSteps grouping (i + 1) rest)

/-- The steps of clauses. -/
def clauseSteps (grouping : Nat) : List Clause → List Step
  | [] => []
  | c :: rest => .check c grouping 0 :: (Step.puts c.pieces ++ furtherSteps grouping 1 rest)

/-- The steps of the grouping at an index. -/
def steps (grouping : Nat) (g : Grouping) : List Step :=
  if 1 < g.clauses.length then
    .put .openGroup :: (clauseSteps grouping g.clauses ++ [.put .closeGroup])
  else clauseSteps grouping g.clauses

end Grouping

namespace Filter

/-- The steps of further groupings, from an index on. -/
def furtherSteps (j : Joiner) : Nat → List Grouping → List Step
  | _, [] => []
  | i, g :: rest => .put (.joiner j) :: (g.steps i ++ furtherSteps j (i + 1) rest)

/-- The steps in which a filter is written. -/
def steps (f : Filter) : List Step :=
  match f.groups with
  | [] => []
  | g :: rest => .put .opening :: (g.steps 0 ++ furtherSteps f.joiner 1 rest)

end Filter

/-! ## What steps come to -/

/-- Behind any text of so many bytes the steps come to the flaw, or else put down the pieces. -/
def Writes (size : Nat) (steps : List Step) (flaw? : Option Flaw) (ps : List Piece) : Prop :=
  ∀ c : Condition, size ≤ c.size →
    run steps c = match flaw? with
      | some flaw => .error flaw
      | none => .ok (c.extend ps)

namespace Writes

variable {n : Nat} {steps steps' : List Step} {flaw? flaw?' : Option Flaw} {ps qs : List Piece}

theorem nil (n : Nat) : Writes n [] none [] := fun _ _ => rfl

/-- Steps in a row: the first flaw counts, and the pieces stand in a row. -/
theorem append (h : Writes n steps flaw? ps) (h' : Writes n steps' flaw?' qs) :
    Writes n (steps ++ steps') (flaw?.or flaw?') (ps ++ qs) := by
  intro c hc
  rw [run, List.foldlM_append]
  show (run steps c >>= run steps') = _
  rw [h c hc]
  cases flaw? with
  | some flaw => rfl
  | none =>
    show run steps' (c.extend ps) = _
    rw [h' _ (Nat.le_trans hc (c.size_extend ps)), Condition.extend_append]
    rfl

theorem puts (n : Nat) : ∀ ps, Writes n (Step.puts ps) none ps
  | [] => nil n
  | p :: ps => fun c hc =>
    puts n ps (c.put p) (Nat.le_trans hc (c.size_extend [p]))

theorem check (n : Nat) (c : Clause) (grouping clause : Nat) :
    Writes n [.check c grouping clause] (c.defect?.map fun d => ⟨d, grouping, clause⟩) [] := by
  intro text _
  cases h : c.defect? with
  | some defect =>
    have hperform : Step.perform text (.check c grouping clause)
        = .error ⟨defect, grouping, clause⟩ := by
      simp only [Step.perform, h]
    rw [run, List.foldlM_cons, hperform]
    rfl
  | none =>
    have hperform : Step.perform text (.check c grouping clause) = .ok text := by
      simp only [Step.perform, h]
    rw [run, List.foldlM_cons, hperform]
    rfl

/-- A joiner is put down once there is more than WHERE. -/
theorem join (h : "WHERE ".utf8ByteSize < n) (j : Joiner) :
    Writes n [.join j] none [.joiner j] := by
  intro c hc
  have hmore : "WHERE ".utf8ByteSize < c.size := Nat.lt_of_lt_of_le h hc
  have hperform : Step.perform c (.join j) = .ok (c.put (.joiner j)) := by
    simp only [Step.perform, if_pos hmore]
  rw [run, List.foldlM_cons, hperform]
  rfl

/-- Behind a piece there is more by its size. -/
theorem behind {p : Piece} (h : Writes (n + p.sql.utf8ByteSize) steps flaw? ps) :
    Writes n (.put p :: steps) flaw? (p :: ps) := by
  intro c hc
  have hsize : n + p.sql.utf8ByteSize ≤ (c.put p).size := by
    rw [Condition.size, Condition.put, String.utf8ByteSize_append]
    exact Nat.add_le_add_right hc _
  exact h (c.put p) hsize

end Writes

theorem firstFlaw_cons (g i : Nat) (c : Clause) (rest : List Clause) :
    firstFlaw g i (c :: rest)
      = (c.defect?.map fun d => ⟨d, g, i⟩).or (firstFlaw g (i + 1) rest) := by
  rw [firstFlaw]
  cases c.defect? <;> rfl

theorem firstGroupFlaw_cons (i : Nat) (g : Grouping) (rest : List Grouping) :
    firstGroupFlaw i (g :: rest)
      = (firstFlaw i 0 g.clauses).or (firstGroupFlaw (i + 1) rest) := by
  rw [firstGroupFlaw]
  cases firstFlaw i 0 g.clauses <;> rfl

namespace Grouping

theorem writes_furtherSteps {n : Nat} (h : "WHERE ".utf8ByteSize < n) (grouping : Nat) :
    ∀ (clauses : List Clause) (i : Nat),
      Writes n (furtherSteps grouping i clauses) (firstFlaw grouping i clauses)
        (furtherPieces clauses)
  | [], _ => .nil n
  | c :: rest, i => by
    have hrest := writes_furtherSteps h grouping rest (i + 1)
    rw [firstFlaw_cons]
    exact (Writes.check n c grouping i).append
      ((Writes.join h c.joiner).append ((Writes.puts n c.pieces).append hrest))

/-- Further clauses need more than WHERE before them, a single one does not. -/
theorem writes_clauseSteps {n : Nat} {clauses : List Clause}
    (h : 1 < clauses.length → "WHERE ".utf8ByteSize < n) (grouping : Nat) :
    Writes n (clauseSteps grouping clauses) (firstFlaw grouping 0 clauses)
      (clausePieces clauses) := by
  match clauses with
  | [] => exact .nil n
  | c :: rest =>
    have hrest : Writes n (furtherSteps grouping 1 rest) (firstFlaw grouping 1 rest)
        (furtherPieces rest) := by
      cases rest with
      | nil => exact .nil n
      | cons d rest => exact writes_furtherSteps (h (by simp)) grouping (d :: rest) 1
    rw [firstFlaw_cons]
    exact (Writes.check n c grouping 0).append ((Writes.puts n c.pieces).append hrest)

/-- The parenthesis before several clauses is more than WHERE, so their joiners are all put down. -/
theorem writes_steps (grouping : Nat) (g : Grouping) :
    Writes "WHERE ".utf8ByteSize (g.steps grouping) (firstFlaw grouping 0 g.clauses) g.pieces := by
  unfold steps pieces
  split
  · have hopen :
        "WHERE ".utf8ByteSize < "WHERE ".utf8ByteSize + Piece.openGroup.sql.utf8ByteSize := by
      decide
    have hclauses := writes_clauseSteps (fun _ : 1 < g.clauses.length => hopen) grouping
    have hclosed := hclauses.append (.puts _ [.closeGroup])
    rw [Option.or_none] at hclosed
    exact hclosed.behind
  · next hsingle => exact writes_clauseSteps (fun hseveral => absurd hseveral hsingle) grouping

end Grouping

namespace Filter

theorem writes_furtherSteps (j : Joiner) :
    ∀ (groups : List Grouping) (i : Nat),
      Writes "WHERE ".utf8ByteSize (furtherSteps j i groups) (firstGroupFlaw i groups)
        (furtherPieces j groups)
  | [], _ => .nil _
  | g :: rest, i => by
    rw [firstGroupFlaw_cons]
    exact (Writes.puts _ [.joiner j]).append
      ((g.writes_steps i).append (writes_furtherSteps j rest (i + 1)))

/-- The steps of a filter come to its flaw or else to its condition. -/
theorem run_steps (f : Filter) : run f.steps {} = f.condition := by
  obtain ⟨j, groups⟩ := f
  cases groups with
  | nil => rfl
  | cons g rest =>
    have hsteps : Writes 0 (steps ⟨j, g :: rest⟩) (flaw? ⟨j, g :: rest⟩)
        (pieces ⟨j, g :: rest⟩) := by
      rw [flaw?, firstGroupFlaw_cons]
      exact ((g.writes_steps 0).append (writes_furtherSteps j rest 1)).behind
    have hrun := hsteps {} (Nat.zero_le _)
    rw [Condition.extend_empty] at hrun
    exact hrun

end Filter

/-! ## Ends of texts -/

/-- The text ends in a blank or in a closing parenthesis. -/
def Spaced (s : String) : Prop := ∃ t, s = t ++ " " ∨ s = t ++ ")"

namespace Spaced

theorem blank (t : String) : Spaced (t ++ " ") := ⟨t, .inl rfl⟩

theorem append (s : String) {t : String} : Spaced t → Spaced (s ++ t)
  | ⟨u, .inl h⟩ => ⟨s ++ u, .inl (by rw [h, String.append_assoc])⟩
  | ⟨u, .inr h⟩ => ⟨s ++ u, .inr (by rw [h, String.append_assoc])⟩

/-- What comes behind is read by itself. -/
theorem complete {s : String} : Spaced s → Sql.Complete s
  | ⟨t, .inl h⟩ => h ▸ Sql.complete_space t
  | ⟨t, .inr h⟩ => .inr ⟨t.toList, ')', by rw [h, String.toList_append]; rfl, .inr rfl⟩

end Spaced

/-- A piece adds nothing to the text or ends it in a blank or in a closing parenthesis. -/
theorem Piece.spaced_sql (p : Piece) : p.sql = "" ∨ Spaced p.sql := by
  cases p with
  | opening => exact .inr (.blank "WHERE")
  | joiner j => exact .inr (.blank j.keyword)
  | openGroup => exact .inr (.blank "(")
  | closeGroup => exact .inr (.blank ")")
  | closeKeys => exact .inr ⟨"", .inr rfl⟩
  | key k => exact .inr (.blank k)
  | operator o => exact .inr (.blank o)
  | operand values =>
    match h : values.length with
    | 0 => exact .inl (by rw [sql, h]; rfl)
    | 1 => exact .inr (by rw [sql, h]; exact .blank "?")
    | n + 2 =>
      refine .inr ?_
      rw [sql, h, placeholders]
      exact .append _ (.blank ")")

/-- A step keeps the end of the text a blank or a closing parenthesis. -/
theorem Step.spaced_perform {s : Step} {c c' : Condition} (h : s.perform c = .ok c')
    (hc : Spaced c.sql) : Spaced c'.sql := by
  rcases perform_eq_ok h with rfl | ⟨p, rfl⟩
  · exact hc
  · show Spaced (c.sql ++ p.sql)
    rcases p.spaced_sql with hnone | hp
    · rwa [hnone, String.append_empty]
    · exact hp.append c.sql

/-- So does a run of steps. -/
theorem spaced_run :
    ∀ {steps : List Step} {c c' : Condition},
      run steps c = .ok c' → Spaced c.sql → Spaced c'.sql
  | [], _, _, h, hc => by
    obtain rfl := Except.ok.inj h
    exact hc
  | s :: steps, c, c', h, hc => by
    rw [run, List.foldlM_cons, bind_eq_ok] at h
    obtain ⟨next, hnext, hrest⟩ := h
    exact spaced_run hrest (s.spaced_perform hnext hc)

/-! ## What stands before a joiner -/

namespace Filter

variable {f : Filter} {c : Condition} {step : Step} {j : Joiner}

/-- The writing of a filter gets to the step with so much put down. -/
def Reaches (f : Filter) (c : Condition) (step : Step) : Prop :=
  ∃ before after, f.steps = before ++ step :: after ∧ run before {} = .ok c

/-- All begins with WHERE, so that stands before any joiner. -/
theorem Reaches.begun (h : f.Reaches c step) (hj : step.Joins j) :
    ∃ before after, f.steps = .put .opening :: (before ++ step :: after) ∧
      run before ⟨"WHERE ", []⟩ = .ok c := by
  obtain ⟨before, after, hsteps, hrun⟩ := h
  obtain ⟨j', groups⟩ := f
  cases groups with
  | nil => simp [steps] at hsteps
  | cons g rest =>
    cases before with
    | nil =>
      obtain ⟨rfl, -⟩ := List.cons.inj hsteps
      rcases hj with hj | hj <;> cases hj
    | cons s before =>
      obtain ⟨rfl, -⟩ := List.cons.inj hsteps
      exact ⟨before, after, hsteps, hrun⟩

/-- What stands before a joiner ends in a blank or in a closing parenthesis, also when the text is
given up later. -/
theorem Reaches.spaced (h : f.Reaches c step) (hj : step.Joins j) : Spaced c.sql := by
  obtain ⟨before, -, -, hrun⟩ := h.begun hj
  exact spaced_run hrun (.blank "WHERE")

/-- The text of a condition is empty or ends in a blank or in a closing parenthesis. -/
theorem spaced_condition (h : f.condition = .ok c) : c.sql = "" ∨ Spaced c.sql := by
  rw [← run_steps] at h
  obtain ⟨j, groups⟩ := f
  cases groups with
  | nil =>
    obtain rfl := Except.ok.inj h
    exact .inl rfl
  | cons g rest =>
    have hrun : run (g.steps 0 ++ furtherSteps j 1 rest) ⟨"WHERE ", []⟩ = .ok c := h
    exact .inr (spaced_run hrun (.blank "WHERE"))

end Filter

/-! ## Joiners of clauses -/

/-- A run of steps takes nothing away. -/
theorem size_run :
    ∀ {steps : List Step} {c c' : Condition}, run steps c = .ok c' → c.size ≤ c'.size
  | [], _, _, h => by
    obtain rfl := Except.ok.inj h
    exact Nat.le_refl _
  | s :: steps, c, c', h => by
    rw [run, List.foldlM_cons, bind_eq_ok] at h
    obtain ⟨next, hnext, hrest⟩ := h
    refine Nat.le_trans ?_ (size_run hrest)
    rcases Step.perform_eq_ok hnext with rfl | ⟨p, rfl⟩
    · exact Nat.le_refl _
    · exact c.size_extend [p]

/-- A piece that is put down on the way counts. -/
theorem size_run_put {before after : List Step} {p : Piece} {c c' : Condition}
    (h : run (before ++ .put p :: after) c = .ok c') :
    c.size + p.sql.utf8ByteSize ≤ c'.size := by
  rw [run, List.foldlM_append, bind_eq_ok] at h
  obtain ⟨next, hnext, hrest⟩ := h
  have hput : run after (next.put p) = .ok c' := hrest
  calc c.size + p.sql.utf8ByteSize
    _ ≤ next.size + p.sql.utf8ByteSize := Nat.add_le_add_right (size_run hnext) _
    _ = (next.put p).size := (String.utf8ByteSize_append ..).symm
    _ ≤ c'.size := size_run hput

/-- Before any joiner of a clause the steps open a parenthesis. -/
def Opened (steps : List Step) : Prop :=
  ∀ before j after, steps = before ++ .join j :: after → .put .openGroup ∈ before

namespace Opened

theorem of_not_mem {steps : List Step} (h : ∀ j, .join j ∉ steps) : Opened steps := by
  intro before j after heq
  exact absurd (heq ▸ List.mem_append_right before (List.mem_cons_self ..)) (h j)

theorem append {steps steps' : List Step} (h : Opened steps) (h' : Opened steps') :
    Opened (steps ++ steps') := by
  intro before j after heq
  -- The joiner comes among the latter steps or among the former.
  rcases List.append_eq_append_iff.1 heq with ⟨mid, rfl, hmid⟩ | ⟨mid, hmid, hafter⟩
  · exact List.mem_append_right _ (h' mid j after hmid)
  · cases mid with
    | nil => exact absurd (h' [] j after hafter.symm) List.not_mem_nil
    | cons s mid =>
      obtain ⟨rfl, -⟩ := List.cons.inj hafter
      exact h before j mid hmid

end Opened

theorem join_not_mem_puts (j : Joiner) (ps : List Piece) : .join j ∉ Step.puts ps := by
  simp [Step.puts]

/-- A joiner comes before a further clause, and several clauses stand in parentheses. -/
theorem Grouping.opened_steps (i : Nat) (g : Grouping) : Opened (g.steps i) := by
  unfold steps
  split
  · intro before j after heq
    cases before with
    | nil => cases (List.cons.inj heq).1
    | cons s before =>
      obtain ⟨rfl, -⟩ := List.cons.inj heq
      exact List.mem_cons_self ..
  · next hsingle =>
    refine Opened.of_not_mem fun j => ?_
    match h : g.clauses with
    | [] => exact List.not_mem_nil
    | [c] => simp [clauseSteps, furtherSteps, join_not_mem_puts]
    | c :: d :: rest => simp [h] at hsingle

namespace Filter

theorem opened_furtherSteps (j : Joiner) :
    ∀ (groups : List Grouping) (i : Nat), Opened (furtherSteps j i groups)
  | [], _ => .of_not_mem fun _ => List.not_mem_nil
  | g :: rest, i => by
    have hjoiner : Opened [.put (.joiner j)] := .of_not_mem fun _ => by simp
    exact hjoiner.append ((g.opened_steps i).append (opened_furtherSteps j rest (i + 1)))

/-- Every joiner is put down when its step comes: that of a clause finds more than WHERE. -/
theorem Reaches.perform {f : Filter} {c : Condition} {step : Step} {j : Joiner}
    (h : f.Reaches c step) (hj : step.Joins j) : step.perform c = .ok (c.put (.joiner j)) := by
  obtain ⟨before, after, hsteps, hrun⟩ := h.begun hj
  rcases hj with rfl | rfl
  · rfl
  · obtain ⟨j', groups⟩ := f
    cases groups with
    | nil => simp [steps] at hsteps
    | cons g rest =>
      have hopened := (g.opened_steps 0).append (opened_furtherSteps j' rest 1)
      -- WHERE and the parenthesis together are longer than WHERE.
      have hmem := hopened before j after (List.cons.inj hsteps).2
      obtain ⟨front, back, rfl⟩ := List.append_of_mem hmem
      have hsize := size_run_put hrun
      have hmore : "WHERE ".utf8ByteSize < c.size :=
        Nat.lt_of_lt_of_le (Nat.lt_add_of_pos_right (by decide)) hsize
      simp only [Step.perform, if_pos hmore]

end Filter

end Inventory.Predicate
