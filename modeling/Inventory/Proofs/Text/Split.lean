import Inventory.Text.Split

/-!
# Parts of texts in a row

Splitting a text that is put together at a separator gives the parts of both sides, and no part
holds a separator. Where a character stands for the first or the last time, a text is cut in one
way only. Main statements: `split_append_separator`, `isSeparator_of_mem_split`, `runs_append`,
`cut_first`, `cut_last` and `split_intercalate`.
-/

namespace Inventory.Text

variable {isSeparator : Char → Bool}

/-- The parts of two texts with a separator between them are those of the one and the other. -/
theorem split_append_separator {s : Char} (hs : isSeparator s = true) (after : List Char) :
    ∀ before, split isSeparator (before ++ s :: after)
      = split isSeparator before ++ split isSeparator after
  | [] => by
    simp only [List.nil_append, split, if_pos hs, List.singleton_append]
  | c :: before => by
    have ih := split_append_separator hs after before
    rw [List.cons_append, split, split]
    by_cases hc : isSeparator c = true
    · rw [if_pos hc, if_pos hc, ih]
      rfl
    · obtain ⟨part, parts, hparts⟩ := List.exists_cons_of_ne_nil (split_ne_nil isSeparator before)
      rw [if_neg hc, if_neg hc, ih, hparts]
      rfl

/-- No part holds a separator. -/
theorem isSeparator_of_mem_split :
    ∀ {cs part : List Char}, part ∈ split isSeparator cs → ∀ c ∈ part, isSeparator c = false
  | [], part, hpart, c, hc => by
    rw [split, List.mem_singleton] at hpart
    rw [hpart] at hc
    exact absurd hc List.not_mem_nil
  | d :: cs, part, hpart, c, hc => by
    rw [split] at hpart
    by_cases hd : isSeparator d = true
    · rw [if_pos hd] at hpart
      rcases List.mem_cons.1 hpart with rfl | hpart
      · exact absurd hc List.not_mem_nil
      · exact isSeparator_of_mem_split hpart c hc
    · obtain ⟨first, parts, hparts⟩ := List.exists_cons_of_ne_nil (split_ne_nil isSeparator cs)
      have ih : ∀ q ∈ first :: parts, ∀ x ∈ q, isSeparator x = false := by
        intro q hq
        rw [← hparts] at hq
        exact isSeparator_of_mem_split hq
      rw [if_neg hd, hparts] at hpart
      rcases List.mem_cons.1 hpart with rfl | hpart
      · rcases List.mem_cons.1 hc with rfl | hc
        · exact Bool.eq_false_iff.2 hd
        · exact ih first (List.mem_cons_self ..) c hc
      · exact ih part (List.mem_cons_of_mem _ hpart) c hc

/-- A character of a joined text is the separator or stands in one of the parts. -/
theorem mem_of_mem_intercalate {s c : Char} :
    ∀ {parts : List (List Char)}, c ∈ [s].intercalate parts → c = s ∨ ∃ p ∈ parts, c ∈ p
  | [], h => absurd h List.not_mem_nil
  | [p], h => by
    rw [List.intercalate_singleton] at h
    exact .inr ⟨p, List.mem_singleton_self p, h⟩
  | p :: q :: parts, h => by
    rw [List.intercalate_cons_cons, List.append_assoc] at h
    rcases List.mem_append.1 h with hp | h
    · exact .inr ⟨p, List.mem_cons_self .., hp⟩
    · rcases List.mem_cons.1 h with rfl | h
      · exact .inl rfl
      · rcases mem_of_mem_intercalate h with hs | ⟨r, hr, hc⟩
        · exact .inl hs
        · exact .inr ⟨r, List.mem_cons_of_mem _ hr, hc⟩

/-! ## Runs of characters -/

/-- A run of a class of characters ends where the first other one stands. -/
theorem runs_append {p : Char → Bool} {run rest : List Char} (hrun : ∀ c ∈ run, p c = true)
    (hrest : ∀ c ∈ rest.head?, p c = false) :
    (run ++ rest).takeWhile p = run ∧ (run ++ rest).dropWhile p = rest := by
  have hnone : rest.takeWhile p = [] ∧ rest.dropWhile p = rest := by
    cases rest with
    | nil => exact ⟨rfl, rfl⟩
    | cons c rest =>
      have hc : ¬p c = true := Bool.eq_false_iff.1 (hrest c rfl)
      exact ⟨List.takeWhile_cons_of_neg hc, List.dropWhile_cons_of_neg hc⟩
  rw [List.takeWhile_append_of_pos hrun, List.dropWhile_append_of_pos hrun, hnone.1, hnone.2,
    List.append_nil]
  exact ⟨rfl, rfl⟩

/-- What follows a run begins with another character. -/
theorem head?_dropWhile {p : Char → Bool} {l : List Char} :
    ∀ c ∈ (l.dropWhile p).head?, p c = false := by
  intro c hc
  have hnot := List.head?_dropWhile_not p l
  rw [Option.mem_def.1 hc] at hnot
  simpa using hnot

/-! ## Cutting at a character -/

/-- A text is cut in one way only at the first place where a character stands. -/
theorem cut_first {s : Char} {before before' after after' : List Char} (h : s ∉ before)
    (h' : s ∉ before') (heq : before ++ s :: after = before' ++ s :: after') :
    before = before' ∧ after = after' := by
  have hrun {cs : List Char} (hcs : s ∉ cs) (rest : List Char) :
      (cs ++ s :: rest).takeWhile (· ≠ s) = cs ∧
        (cs ++ s :: rest).dropWhile (· ≠ s) = s :: rest := by
    apply runs_append
    · intro c hc
      exact decide_eq_true fun heq => hcs (heq ▸ hc)
    · intro c hc
      obtain rfl : s = c := by simpa using hc
      simp
  obtain ⟨htake, hdrop⟩ := hrun h after
  obtain ⟨htake', hdrop'⟩ := hrun h' after'
  rw [heq] at htake hdrop
  have hafter : s :: after = s :: after' := hdrop.symm.trans hdrop'
  exact ⟨htake.symm.trans htake', (List.cons.inj hafter).2⟩

/-- A text is cut in one way only at the last place where a character stands. -/
theorem cut_last {s : Char} {before before' after after' : List Char} (h : s ∉ after)
    (h' : s ∉ after') (heq : before ++ s :: after = before' ++ s :: after') :
    before = before' ∧ after = after' := by
  have hreverse := congrArg List.reverse heq
  simp only [List.reverse_append, List.reverse_cons, List.append_assoc, List.singleton_append]
    at hreverse
  obtain ⟨hafter, hbefore⟩ := cut_first (by simpa using h) (by simpa using h') hreverse
  exact ⟨List.reverse_inj.1 hbefore, List.reverse_inj.1 hafter⟩

/-- Parts without separators are what their joined text is split into. -/
theorem split_intercalate {s : Char} (hs : isSeparator s = true) :
    ∀ {parts : List (List Char)}, parts ≠ [] → (∀ p ∈ parts, ∀ c ∈ p, isSeparator c = false) →
      split isSeparator ([s].intercalate parts) = parts
  | [p], _, h => by
    rw [List.intercalate_singleton]
    exact split_of_none (h p (List.mem_cons_self ..))
  | p :: q :: parts, _, h => by
    obtain ⟨hp, hparts⟩ := List.forall_mem_cons.1 h
    rw [List.intercalate_cons_cons, List.append_assoc, List.singleton_append,
      split_append_separator hs, split_of_none hp, split_intercalate hs (by simp) hparts]
    rfl

end Inventory.Text
