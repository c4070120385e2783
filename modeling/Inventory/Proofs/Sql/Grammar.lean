import Inventory.Proofs.Sql.Token

/-!
# The grammar of conditions

A comparison is a run of words, with a placeholder or a list of placeholders behind it or none.
AND joins comparisons and conditions in parentheses, OR joins what AND has joined. The values of
the placeholders are taken from left to right. Main statement: `Reads.unique` (tokens are read as
one condition at most): a reader with a stack of open parentheses, `Reader.step`, follows every
derivation of the grammar, so that its result is the only one.
-/

namespace Inventory.Sql

open Inventory.Predicate (Joiner)

/-! ## Formulas -/

/-- Parts that AND and OR join. -/
inductive Formula (α : Type) where
  | part (a : α)
  | joined (j : Joiner) (p q : Formula α)

/-- What a joiner makes of two truths. -/
def truthOf : Joiner → Bool → Bool → Bool
  | .and => (· && ·)
  | .or => (· || ·)

/-- The truth of a formula, given that of its parts. -/
def Formula.eval {α : Type} (holds : α → Bool) : Formula α → Bool
  | .part a => holds a
  | .joined j p q => truthOf j (p.eval holds) (q.eval holds)

/-- What stands behind the words of a comparison. -/
inductive Operand where
  | none
  | one
  /-- A placeholder and so many more, in parentheses. -/
  | list (more : Nat)

namespace Operand

/-- The operand for so many values. -/
def ofCount : Nat → Operand
  | 0 => .none
  | 1 => .one
  | n + 2 => .list (n + 1)

/-- How many placeholders there are. -/
def marks : Operand → Nat
  | .none => 0
  | .one => 1
  | .list more => more + 1

/-- The tokens of an operand. -/
def tokens : Operand → List Token
  | .none => []
  | .one => [.mark]
  | .list more => .opening :: .mark :: (List.replicate more [.comma, .mark]).flatten ++ [.closing]

/-- The text of an operand. -/
def text : Operand → String
  | .none => ""
  | .one => " ?"
  | .list more => " (" ++ ",".intercalate (List.replicate (more + 1) "?") ++ ")"

theorem marks_ofCount (n : Nat) : (ofCount n).marks = n := by
  match n with
  | 0 | 1 | n + 2 => rfl

end Operand

/-- A comparison as it is written. -/
structure Comparison where
  words : List (List Char)
  operand : Operand

/-- The text of a comparison, with single blanks between its words. -/
def Comparison.text (c : Comparison) : String :=
  " ".intercalate (c.words.map String.ofList) ++ c.operand.text

/-- A comparison whose placeholders have their values. -/
structure Bound where
  text : String
  values : List String
  deriving DecidableEq

/-- Gives the placeholders of a formula the first values, from left to right, and leaves the
rest. -/
def Formula.bind : Formula Comparison → List String → Option (Formula Bound × List String)
  | .part c, values =>
    if c.operand.marks ≤ values.length then
      some (.part ⟨c.text, values.take c.operand.marks⟩, values.drop c.operand.marks)
    else none
  | .joined j p q, values =>
    match p.bind values with
    | none => none
    | some (b, rest) => (q.bind rest).map fun r => (.joined j b r.1, r.2)

/-! ## The grammar -/

/-- What tokens can make up. -/
inductive Rank where
  /-- A comparison or a condition in parentheses. -/
  | factor
  /-- Factors that AND joins. -/
  | conjunction
  /-- Conjunctions that OR joins. -/
  | condition

/-- The tokens make up the formula. -/
inductive Reads : Rank → List Token → Formula Comparison → Prop where
  | comparison {c : Comparison} (hne : c.words ≠ []) :
      Reads .factor (c.words.map .word ++ c.operand.tokens) (.part c)
  | group {ts p} (h : Reads .condition ts p) : Reads .factor (.opening :: ts ++ [.closing]) p
  | factor {ts p} (h : Reads .factor ts p) : Reads .conjunction ts p
  | and {ts us p q} (hp : Reads .conjunction ts p) (hq : Reads .factor us q) :
      Reads .conjunction (ts ++ .joiner .and :: us) (.joined .and p q)
  | conjunction {ts p} (h : Reads .conjunction ts p) : Reads .condition ts p
  | or {ts us p q} (hp : Reads .condition ts p) (hq : Reads .conjunction us q) :
      Reads .condition (ts ++ .joiner .or :: us) (.joined .or p q)

/-- The text is WHERE and a condition that makes up the formula. -/
def Parses (s : String) (p : Formula Comparison) : Prop :=
  ∃ ts, tokens s = .word "WHERE".toList :: ts ∧ Reads .condition ts p

/-! ## A reader

What AND and OR have joined so far is kept for every open parenthesis, and one token is read at a
time. -/

namespace Reader

/-- What stands in an open parenthesis before the factor that is being read. -/
structure Frame where
  /-- What OR joins to the rest. -/
  alternatives : Option (Formula Comparison) := none
  /-- What AND joins to the factor. -/
  run : Option (Formula Comparison) := none

/-- How far a factor is read. -/
inductive Stage where
  | start
  | words (ws : List (List Char))
  /-- In a list of placeholders, where the next is to come after so many. -/
  | item (ws : List (List Char)) (before : Nat)
  /-- In a list of placeholders, behind one that comes after so many. -/
  | listed (ws : List (List Char)) (before : Nat)
  | done (p : Formula Comparison)

/-- Joins what there is to a formula. -/
def joinTo (j : Joiner) (p : Option (Formula Comparison)) (q : Formula Comparison) :
    Formula Comparison :=
  match p with
  | none => q
  | some p => .joined j p q

/-- The whole of a parenthesis that ends with a factor. -/
def Frame.close (f : Frame) (p : Formula Comparison) : Formula Comparison :=
  joinTo .or f.alternatives (joinTo .and f.run p)

/-- A frame after a factor and a joiner. -/
def Frame.push (f : Frame) (p : Formula Comparison) : Joiner → Frame
  | .and => { f with run := some (joinTo .and f.run p) }
  | .or => { alternatives := some (f.close p) }

/-- The factor that has been read, if it can end here. -/
def Stage.factor? : Stage → Option (Formula Comparison)
  | .words ws => some (.part ⟨ws, .none⟩)
  | .done p => some p
  | _ => none

/-- The open parentheses, innermost first, and the factor that is being read. -/
abbrev State := List Frame × Stage

/-- Reads one token. -/
def step : State → Token → Option State
  | (fs, .start), .opening => some ({} :: fs, .start)
  | (fs, .start), .word w => some (fs, .words [w])
  | (fs, .words ws), .word w => some (fs, .words (ws ++ [w]))
  | (fs, .words ws), .mark => some (fs, .done (.part ⟨ws, .one⟩))
  | (fs, .words ws), .opening => some (fs, .item ws 0)
  | (fs, .item ws n), .mark => some (fs, .listed ws n)
  | (fs, .listed ws n), .comma => some (fs, .item ws (n + 1))
  | (fs, .listed ws n), .closing => some (fs, .done (.part ⟨ws, .list n⟩))
  | (f :: fs, s), .joiner j => s.factor?.map fun p => (f.push p j :: fs, .start)
  | (f :: fs, s), .closing => s.factor?.map fun p => (fs, .done (f.close p))
  | _, _ => none

/-- Reads tokens one after the other. -/
def run (s : State) (ts : List Token) : Option State := ts.foldlM step s

/-- The formula that the tokens make up, if they make up any. -/
def formula? (ts : List Token) : Option (Formula Comparison) :=
  match run ([{}], .start) ts with
  | some ([f], s) => s.factor?.map f.close
  | _ => none

theorem run_append (s : State) (ts us : List Token) :
    run s (ts ++ us) = (run s ts).bind (run · us) := List.foldlM_append

theorem run_cons (s : State) (t : Token) (ts : List Token) :
    run s (t :: ts) = (step s t).bind (run · ts) := List.foldlM_cons

/-- A joiner ends a factor. -/
theorem step_joiner {s : Stage} {p : Formula Comparison} (h : s.factor? = some p) (f : Frame)
    (fs : List Frame) (j : Joiner) :
    step (f :: fs, s) (.joiner j) = some (f.push p j :: fs, .start) := by
  cases s <;> simp_all [step, Stage.factor?]

/-- A closing parenthesis ends a factor and makes its frame one. -/
theorem step_closing {s : Stage} {p : Formula Comparison} (h : s.factor? = some p) (f : Frame)
    (fs : List Frame) : step (f :: fs, s) .closing = some (fs, .done (f.close p)) := by
  cases s <;> simp_all [step, Stage.factor?]

/-- Words lengthen the run of words. -/
theorem run_words (fs : List Frame) :
    ∀ ws vs, run (fs, .words vs) (ws.map .word) = some (fs, .words (vs ++ ws))
  | [], vs => by rw [List.append_nil]; rfl
  | w :: ws, vs => by
    rw [List.map_cons, run_cons]
    refine (run_words fs ws (vs ++ [w])).trans ?_
    rw [List.append_assoc, List.singleton_append]

/-- Further placeholders lengthen the list. -/
theorem run_marks (fs : List Frame) (ws : List (List Char)) :
    ∀ more n, run (fs, .listed ws n) (List.replicate more [.comma, .mark]).flatten
      = some (fs, .listed ws (n + more))
  | 0, n => rfl
  | more + 1, n => by
    rw [List.replicate_succ, List.flatten_cons]
    refine (run_marks fs ws more (n + 1)).trans ?_
    rw [Nat.add_right_comm, Nat.add_assoc]

/-- A comparison is read as it is written. -/
theorem run_comparison (fs : List Frame) {c : Comparison} (hne : c.words ≠ []) :
    ∃ s, run (fs, .start) (c.words.map .word ++ c.operand.tokens) = some (fs, s) ∧
      s.factor? = some (.part c) := by
  obtain ⟨words, operand⟩ := c
  obtain ⟨w, ws, rfl⟩ := List.exists_cons_of_ne_nil hne
  have hw : run (fs, .start) ((w :: ws).map .word) = some (fs, .words (w :: ws)) :=
    run_words fs ws [w]
  rw [run_append, hw, Option.bind_some]
  cases operand with
  | none => exact ⟨_, rfl, rfl⟩
  | one => exact ⟨_, rfl, rfl⟩
  | list more =>
    refine ⟨.done (.part ⟨w :: ws, .list more⟩), ?_, rfl⟩
    rw [Operand.tokens, run_append]
    have hm := run_marks fs (w :: ws) more 0
    rw [Nat.zero_add] at hm
    rw [show run (fs, .words (w :: ws)) (.opening :: .mark :: _) = _ from hm]
    rfl

/-- What the reader makes of tokens of a rank: a factor is read in any frame, a conjunction into
the run of a frame, a condition into a frame of its own. -/
def Follows (ts : List Token) (p : Formula Comparison) : Rank → Prop
  | .factor => ∀ fs, ∃ s, run (fs, .start) ts = some (fs, s) ∧ s.factor? = some p
  | .conjunction => ∀ a fs, ∃ r s q,
      run ({ alternatives := a } :: fs, .start) ts
          = some ({ alternatives := a, run := r } :: fs, s) ∧
        s.factor? = some q ∧ joinTo .and r q = p
  | .condition => ∀ fs, ∃ f s q,
      run ({} :: fs, .start) ts = some (f :: fs, s) ∧ s.factor? = some q ∧ f.close q = p

/-- The reader follows the grammar. -/
theorem follows {r : Rank} {ts : List Token} {p : Formula Comparison} (h : Reads r ts p) :
    Follows ts p r := by
  -- What is open around the tokens is arbitrary at every rank, so that a parenthesis can be read
  -- inside of any other.
  induction h with
  | comparison hne => exact fun fs => run_comparison fs hne
  | group _ ih =>
    -- The condition gets the frame that the parenthesis opens, and its end closes it.
    intro fs
    obtain ⟨f, s, q, hs, hq, rfl⟩ := ih fs
    refine ⟨.done (f.close q), ?_, rfl⟩
    rw [run_append, run_cons]
    rw [show step (fs, .start) .opening = some ({} :: fs, .start) from rfl, Option.bind_some, hs,
      Option.bind_some, run_cons, step_closing hq]
    rfl
  | factor _ ih =>
    intro a fs
    obtain ⟨s, hs, hp⟩ := ih ({ alternatives := a } :: fs)
    exact ⟨none, s, _, hs, hp, rfl⟩
  | and _ _ ihp ihq =>
    intro a fs
    obtain ⟨r, s, q, hs, hq, rfl⟩ := ihp a fs
    obtain ⟨s', hs', hq'⟩ := ihq ({ alternatives := a, run := some (joinTo .and r q) } :: fs)
    refine ⟨some (joinTo .and r q), s', _, ?_, hq', rfl⟩
    rw [run_append, hs, Option.bind_some, run_cons, step_joiner hq, Option.bind_some]
    exact hs'
  | conjunction _ ih =>
    intro fs
    obtain ⟨r, s, q, hs, hq, rfl⟩ := ih none fs
    exact ⟨{ run := r }, s, q, hs, hq, rfl⟩
  | or _ _ ihp ihq =>
    -- OR moves all that was read so far to the alternatives and leaves no run.
    intro fs
    obtain ⟨f, s, q, hs, hq, rfl⟩ := ihp fs
    obtain ⟨r, s', q', hs', hq', rfl⟩ := ihq (some (f.close q)) fs
    refine ⟨{ alternatives := some (f.close q), run := r }, s', q', ?_, hq', rfl⟩
    rw [run_append, hs, Option.bind_some, run_cons, step_joiner hq, Option.bind_some]
    exact hs'

/-- The reader finds the formula of every condition. -/
theorem formula?_of_reads {ts : List Token} {p : Formula Comparison} (h : Reads .condition ts p) :
    formula? ts = some p := by
  obtain ⟨f, s, q, hs, hq, rfl⟩ := follows h []
  simp [formula?, hs, hq]

end Reader

/-- Tokens are read as one condition at most. -/
theorem Reads.unique {ts : List Token} {p q : Formula Comparison} (hp : Reads .condition ts p)
    (hq : Reads .condition ts q) : p = q :=
  Option.some.inj ((Reader.formula?_of_reads hp).symm.trans (Reader.formula?_of_reads hq))

/-- A text is parsed as one condition at most. -/
theorem Parses.unique {s : String} {p q : Formula Comparison} (hp : Parses s p)
    (hq : Parses s q) : p = q := by
  obtain ⟨ts, hts, hp⟩ := hp
  obtain ⟨us, hus, hq⟩ := hq
  obtain rfl := (List.cons.inj (hts.symm.trans hus)).2
  exact hp.unique hq

end Inventory.Sql
