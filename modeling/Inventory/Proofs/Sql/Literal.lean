import Inventory.Predicate.Search

/-!
# Literals in a text of SQL

A literal begins at a quote and runs to the next quote of its kind that is neither doubled nor
behind a backslash. A doubled quote inside stands for one, a backslash for a character together
with the next. Main statements: `scan_escaped` (an escaped text is read back, up to the quote that
ends it) and `scan_weave` (what is put together from stretches and escaped texts is cut into them
again).
-/

namespace Inventory.Sql

open Inventory.Predicate (escapeLiteral escapeLiteralChar)

/-- A text cut at its literals: the stretches around them, one more than there are literals, and
what the literals stand for. -/
structure Cut where
  outside : List (List Char)
  literals : List (List Char)
  deriving DecidableEq

/-- Puts characters in front of the first of some texts. -/
def extend (cs : List Char) : List (List Char) → List (List Char)
  | [] => [cs]
  | t :: ts => (cs ++ t) :: ts

namespace Cut

/-- Characters outside of literals come first. -/
def plain (cs : List Char) (s : Cut) : Cut := { s with outside := extend cs s.outside }

/-- A literal begins. -/
def begin (s : Cut) : Cut := { s with outside := [] :: s.outside }

/-- Characters of a literal come first. -/
def content (cs : List Char) (s : Cut) : Cut := { s with literals := extend cs s.literals }

/-- A literal ends. -/
def finish (s : Cut) : Cut := { s with literals := [] :: s.literals }

end Cut

/-- What a backslash and a character stand for. -/
def escaped : Char → List Char
  | '0' => ['\x00']
  | 'b' => ['\x08']
  | 'n' => ['\n']
  | 'r' => ['\r']
  | 't' => ['\t']
  | 'Z' => ['\x1a']
  | '%' => ['\\', '%']
  | '_' => ['\\', '_']
  | c => [c]

/-- Cuts a text at its literals, none if the last of them does not end. The text begins inside a
literal of the given quote or outside of any. -/
def scan : Option Char → List Char → Option Cut
  | none, [] => some ⟨[[]], []⟩
  | none, c :: rest =>
    if c = '\'' ∨ c = '"' then (scan (some c) rest).map Cut.begin
    else (scan none rest).map (Cut.plain [c])
  | some _, [] => none
  | some q, c :: rest =>
    if c = q then
      -- Only the next character tells whether this quote ends the literal.
      match rest with
      | [] => (scan none []).map Cut.finish
      | d :: rest =>
        if d = q then (scan (some q) rest).map (Cut.content [q])
        else (scan none (d :: rest)).map Cut.finish
    else if c = '\\' then
      match rest with
      | [] => none
      | d :: rest => (scan (some q) rest).map (Cut.content (escaped d))
    else (scan (some q) rest).map (Cut.content [c])

/-- Cuts a text of SQL at its literals. -/
def cut? (s : String) : Option Cut := scan none s.toList

/-- Text that stands between literals: there is some, and no quote is in it. -/
def IsStretch (cs : List Char) : Prop := cs ≠ [] ∧ ∀ c ∈ cs, c ≠ '\'' ∧ c ≠ '"'

-- The characters of the text are tested, not all the characters there are.
instance (cs : List Char) : Decidable (IsStretch cs) :=
  @instDecidableAnd _ _ inferInstance (List.decidableBAll _ cs)

/-- Text without quotes is one stretch. -/
theorem scan_tail :
    ∀ {cs : List Char}, (∀ c ∈ cs, c ≠ '\'' ∧ c ≠ '"') → scan none cs = some ⟨[cs], []⟩
  | [], _ => rfl
  | c :: cs, h => by
    obtain ⟨hq, hd⟩ := h c (List.mem_cons_self ..)
    rw [scan, if_neg (not_or.2 ⟨hq, hd⟩), scan_tail fun d hd => h d (List.mem_cons_of_mem _ hd)]
    rfl

/-- A stretch runs to the quote that begins a literal. -/
theorem scan_stretch (rest : List Char) :
    ∀ {cs : List Char}, (∀ c ∈ cs, c ≠ '\'' ∧ c ≠ '"') →
      scan none (cs ++ '\'' :: rest)
        = (scan (some '\'') rest).map fun s => { s with outside := cs :: s.outside }
  | [], _ => rfl
  | c :: cs, h => by
    obtain ⟨hq, hd⟩ := h c (List.mem_cons_self ..)
    have ih := scan_stretch rest fun d hd => h d (List.mem_cons_of_mem _ hd)
    rw [List.cons_append, scan, if_neg (not_or.2 ⟨hq, hd⟩), ih, Option.map_map]
    rfl

/-- A quote ends a literal unless it is doubled. -/
theorem scan_quote {q : Char} {rest : List Char} (h : rest.head? ≠ some q) :
    scan (some q) (q :: rest) = (scan none rest).map Cut.finish := by
  cases rest with
  | nil => simp [scan]
  | cons d rest =>
    have hd : d ≠ q := fun he => h (congrArg some he)
    simp [scan, hd]

/-- Other characters stand for themselves. -/
theorem scan_char {q c : Char} (hq : c ≠ q) (hb : c ≠ '\\') (rest : List Char) :
    scan (some q) (c :: rest) = (scan (some q) rest).map (Cut.content [c]) := by
  cases rest <;> simp [scan, hq, hb]

/-- What is escaped is read back, up to the quote that ends it. -/
theorem scan_escaped {rest : List Char} (h : rest.head? ≠ some '\'') :
    ∀ cs, scan (some '\'') (escapeLiteral cs ++ '\'' :: rest)
      = (scan none rest).map fun s => { s with literals := cs :: s.literals }
  | [] => by
    show scan (some '\'') ('\'' :: rest) = _
    rw [scan_quote h]
    rfl
  | c :: cs => by
    -- Both characters of a doubled quote and of a doubled backslash are read in one step, so that
    -- the rest is always read from the inside of the literal.
    have ih := scan_escaped h cs
    have hcons : escapeLiteral (c :: cs) = escapeLiteralChar c ++ escapeLiteral cs := rfl
    rw [hcons, List.append_assoc, escapeLiteralChar]
    by_cases hq : c = '\''
    · rw [if_pos hq, hq]
      show (scan (some '\'') (escapeLiteral cs ++ '\'' :: rest)).map _ = _
      rw [ih, Option.map_map]
      rfl
    · by_cases hb : c = '\\'
      · rw [if_neg hq, if_pos hb, hb]
        show (scan (some '\'') (escapeLiteral cs ++ '\'' :: rest)).map _ = _
        rw [ih, Option.map_map]
        rfl
      · rw [if_neg hq, if_neg hb, List.singleton_append, scan_char hq hb, ih, Option.map_map]
        rfl

/-- The text after a literal does not double the quote that ends it. -/
theorem IsStretch.head?_ne {cs : List Char} (h : IsStretch cs) (rest : List Char) :
    (cs ++ rest).head? ≠ some '\'' := by
  obtain ⟨c, cs, rfl⟩ := List.exists_cons_of_ne_nil h.1
  exact fun he => (h.2 c (List.mem_cons_self ..)).1 (Option.some.inj he)

/-- A stretch, a literal and what follows are read one after the other. -/
theorem scan_quoted {before rest : List Char} (hbefore : IsStretch before)
    (hrest : rest.head? ≠ some '\'') (cs : List Char) :
    scan none (before ++ '\'' :: (escapeLiteral cs ++ '\'' :: rest))
      = (scan none rest).map fun s => ⟨before :: s.outside, cs :: s.literals⟩ := by
  rw [scan_stretch _ hbefore.2, scan_escaped hrest, Option.map_map]
  rfl

/-- Stretches with escaped texts in quotes between them. -/
def weave : List (List Char) → List (List Char) → List Char
  | [], _ => []
  | stretch :: _, [] => stretch
  | stretch :: stretches, literal :: literals =>
    stretch ++ '\'' :: (escapeLiteral literal ++ '\'' :: weave stretches literals)

theorem weave_head?_ne {stretches : List (List Char)} (h : ∀ s ∈ stretches, IsStretch s)
    (literals : List (List Char)) : (weave stretches literals).head? ≠ some '\'' := by
  match stretches, literals with
  | [], _ => exact nofun
  | stretch :: _, [] =>
    have hhead := (h stretch (List.mem_cons_self ..)).head?_ne []
    rw [List.append_nil] at hhead
    exact hhead
  | stretch :: _, _ :: _ => exact (h stretch (List.mem_cons_self ..)).head?_ne _

/-- What has been put together from stretches and escaped texts is cut into them again, whatever
the texts are. -/
theorem scan_weave :
    ∀ {stretches literals : List (List Char)}, (∀ s ∈ stretches, IsStretch s) →
      stretches.length = literals.length + 1 →
        scan none (weave stretches literals) = some ⟨stretches, literals⟩
  | [], _, _, hlength => absurd hlength (Nat.succ_ne_zero _).symm
  | stretch :: stretches, [], h, hlength => by
    have hnil : stretches = [] := List.eq_nil_of_length_eq_zero (Nat.succ.inj hlength)
    rw [hnil, weave]
    exact scan_tail (h stretch (List.mem_cons_self ..)).2
  | stretch :: stretches, literal :: literals, h, hlength => by
    have hrest : ∀ s ∈ stretches, IsStretch s := fun s hs => h s (List.mem_cons_of_mem _ hs)
    rw [weave, scan_quoted (h stretch (List.mem_cons_self ..)) (weave_head?_ne hrest literals),
      scan_weave hrest (Nat.succ.inj hlength)]
    rfl

end Inventory.Sql
