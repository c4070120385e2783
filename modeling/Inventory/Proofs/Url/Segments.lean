import Inventory.Proofs.Text.Split
import Inventory.Url.Basic

/-!
# Segments after segments

While the segments of a path are resolved, those read so far are a stack. What comes after them is
resolved on top of the stack, and as long as it does not lead out, the stack stays below it. Slashes
at the end of a path are segments without characters, which change nothing else. Main statements:
`resolve_append`, `exists_resolve_append_empty` and `resolve_of_staysInside`.
-/

namespace Inventory.Url.Segments

/-- The stack after one more segment that another follows. -/
def enter (before : List (List Char)) (segment : List Char) : List (List Char) :=
  if isTwoPoints segment then before.tail
  else if isPoint segment then before
  else segment :: before

/-- What comes after segments is resolved on top of what they leave. -/
theorem resolve_append (next : List Char) (rest : List (List Char)) :
    ∀ (segments before : List (List Char)), resolve before (segments ++ next :: rest)
      = resolve (segments.foldl enter before) (next :: rest)
  | [], before => rfl
  | segment :: segments, before => by
    have hne : segments ++ next :: rest ≠ [] :=
      List.append_ne_nil_of_right_ne_nil _ (List.cons_ne_nil _ _)
    obtain ⟨second, more, hmore⟩ := List.exists_cons_of_ne_nil hne
    have hstep : resolve before (segment :: second :: more)
        = resolve (enter before segment) (second :: more) := by
      unfold enter
      rw [resolve]
      split
      · rfl
      · split <;> rfl
    rw [List.cons_append, hmore, hstep, ← hmore, resolve_append next rest segments]
    rfl

/-- A last segment that is no points stays on the stack; points leave one without characters. -/
theorem exists_resolve_singleton (last : List Char) (before : List (List Char)) :
    ∃ j, resolve before [last] = (enter before last).reverse ++ List.replicate j [] := by
  unfold enter
  rw [resolve]
  split
  · exact ⟨1, List.reverse_cons⟩
  · split
    · exact ⟨1, List.reverse_cons⟩
    · exact ⟨0, (List.append_nil _).symm⟩

/-- Segments with ones without characters behind them are what the first leave, with ones without
characters behind. -/
theorem exists_resolve_append_empty (k : Nat) (segments : List (List Char))
    (before : List (List Char)) :
    ∃ j, resolve before (segments ++ List.replicate k [])
      = (segments.foldl enter before).reverse ++ List.replicate j [] := by
  cases k with
  | zero =>
    rw [List.replicate_zero, List.append_nil]
    rcases List.eq_nil_or_concat segments with rfl | ⟨front, last, rfl⟩
    · exact ⟨0, (List.append_nil _).symm⟩
    · rw [List.concat_eq_append, resolve_append, List.foldl_append]
      exact exists_resolve_singleton last _
  | succ k =>
    refine ⟨k + 1, ?_⟩
    rw [List.replicate_succ, resolve_append, ← List.replicate_succ, resolve_of_plain]
    intro s hs
    rw [List.eq_of_mem_replicate hs]
    decide

/-! ## Staying inside -/

/-- At no point do the segments, that many levels below where they must stay, lead out. -/
def staysInside : Nat → List (List Char) → Bool
  | _, [] => true
  | depth, segment :: rest =>
    if isTwoPoints segment then
      match depth with
      | 0 => false
      | depth + 1 => staysInside depth rest
    else if isPoint segment then staysInside depth rest
    else staysInside (depth + 1) rest

/-- What stays inside is resolved on top of what is outside. -/
theorem resolve_of_staysInside {outer : List (List Char)} :
    ∀ {segments inner : List (List Char)}, segments ≠ [] →
      staysInside inner.length segments = true →
      ∃ after, after ≠ [] ∧ resolve (inner ++ outer) segments = outer.reverse ++ after
  | [], _, hne, _ => absurd rfl hne
  | [last], inner, _, h => by
    unfold staysInside at h
    rw [resolve]
    split at h
    · next htwo =>
      rw [if_pos htwo]
      cases inner with
      | nil => contradiction
      | cons s inner => exact ⟨inner.reverse ++ [[]], by simp, by simp⟩
    · next htwo =>
      rw [if_neg htwo]
      split
      · exact ⟨inner.reverse ++ [[]], by simp, by simp⟩
      · exact ⟨inner.reverse ++ [last], by simp, by simp⟩
  | segment :: next :: rest, inner, _, h => by
    unfold staysInside at h
    rw [resolve]
    split at h
    · next htwo =>
      rw [if_pos htwo]
      cases inner with
      | nil => contradiction
      | cons s inner => exact resolve_of_staysInside (List.cons_ne_nil _ _) h
    · next htwo =>
      rw [if_neg htwo]
      split at h
      · next hone =>
        rw [if_pos hone]
        exact resolve_of_staysInside (List.cons_ne_nil _ _) h
      · next hone =>
        rw [if_neg hone, ← List.cons_append]
        exact resolve_of_staysInside (List.cons_ne_nil _ _) h

/-! ## Segments as text -/

theorem join_append (before after : List (List Char)) :
    join (before ++ after) = join before ++ join after := List.flatMap_append

theorem join_cons (segment : List Char) (rest : List (List Char)) :
    join (segment :: rest) = '/' :: (segment ++ join rest) := by
  rw [join, List.flatMap_cons, List.cons_append]
  rfl

theorem join_empty (k : Nat) : join (List.replicate k []) = List.replicate k '/' := by
  induction k with
  | zero => rfl
  | succ k ih => rw [List.replicate_succ, join_cons, ih, List.nil_append, List.replicate_succ]

/-- Slashes at the end of a text leave parts without characters. -/
theorem split_append_slashes {isSlash : Char → Bool} (hslash : isSlash '/' = true)
    (cs : List Char) : ∀ k, Text.split isSlash (cs ++ List.replicate k '/')
      = Text.split isSlash cs ++ List.replicate k []
  | 0 => by rw [List.replicate_zero, List.replicate_zero, List.append_nil, List.append_nil]
  | k + 1 => by
    have ih := split_append_slashes hslash [] k
    rw [List.nil_append] at ih
    rw [List.replicate_succ, Text.split_append_separator hslash, ih]
    rfl

end Inventory.Url.Segments
