import Inventory.Proofs.Sql.Literal

/-!
# Texts with a single literal

What a literal stands for says little about how it is written, but not nothing: in a text that is
cut at one literal, whatever the literal stands for is no longer than what is written between its
quotes, and shorter when that has quotes or backslashes in it. So a lost character shows. Main
statements: `eq_of_scan_none` (a text without literals is all one stretch), `oneLiteral_of_scan`
and `scan_content_iff`.
-/

namespace Inventory.Sql

theorem extend_ne_nil (cs : List Char) (ts : List (List Char)) : extend cs ts ≠ [] := by
  cases ts <;> simp [extend]

/-- A cut has a stretch after its last literal, even if it is empty. -/
theorem outside_ne_nil (m : Option Char) (t : List Char) :
    ∀ s ∈ scan m t, s.outside ≠ [] := by
  fun_induction scan m t with
  | case1 => simp
  | case4 | case8 => simp
  | case2 | case5 | case6 | case7 | case9 | case10 =>
    intro s hs
    obtain ⟨s', hs', rfl⟩ := Option.map_eq_some_iff.1 hs
    simp_all [Cut.begin, Cut.finish, Cut.content]
  | case3 =>
    intro s hs
    obtain ⟨s', -, rfl⟩ := Option.map_eq_some_iff.1 hs
    exact extend_ne_nil _ _

/-- A text without literals is all one stretch. -/
theorem eq_of_scan_none {t o : List Char} {ls : List (List Char)}
    (h : scan none t = some ⟨[o], ls⟩) : t = o ∧ ls = [] := by
  induction t generalizing o ls with
  | nil => simpa [scan] using h
  | cons c t ih =>
    rw [scan] at h
    split at h
    · obtain ⟨s, hs, h⟩ := Option.map_eq_some_iff.1 h
      -- A literal would have a stretch before it and one after it.
      have := outside_ne_nil _ _ s hs
      simp_all [Cut.begin]
    · obtain ⟨⟨out, ls'⟩, hs, h⟩ := Option.map_eq_some_iff.1 h
      simp only [Cut.plain, Cut.mk.injEq] at h
      cases out with
      | nil => exact absurd rfl (outside_ne_nil _ _ _ hs)
      | cons o' out =>
        simp only [extend, List.cons.injEq] at h
        obtain ⟨⟨rfl, rfl⟩, rfl⟩ := h
        obtain ⟨rfl, rfl⟩ := ih hs
        exact ⟨rfl, rfl⟩

/-- The text is the rest of one literal, the quote that ends it and `after`. Counted against what
the literal is written with, a pair of quotes is worth one character at most, and so is a quote
behind a backslash. -/
def OneLiteral (q : Char) (after t : List Char) (literals : List (List Char)) : Prop :=
  ∃ used w, t = used ++ q :: after ∧ literals = [w] ∧
    2 * w.length + used.count q ≤ 2 * used.length

section
variable {q : Char} {after rest : List Char} {literals : List (List Char)}

theorem OneLiteral.finish
    (h : (scan none rest).map Cut.finish = some ⟨[after], literals⟩) :
    OneLiteral q after (q :: rest) literals := by
  obtain ⟨⟨out, ls⟩, hs, h⟩ := Option.map_eq_some_iff.1 h
  simp only [Cut.finish, Cut.mk.injEq] at h
  obtain ⟨rfl, rfl⟩ := h
  obtain ⟨rfl, rfl⟩ := eq_of_scan_none hs
  exact ⟨[], [], rfl, rfl, by simp⟩

theorem OneLiteral.content (used : List Char) {cs : List Char}
    (hused : 2 * cs.length + used.count q ≤ 2 * used.length)
    (ih : ∀ {ls}, scan (some q) rest = some ⟨[after], ls⟩ → OneLiteral q after rest ls)
    (h : (scan (some q) rest).map (Cut.content cs) = some ⟨[after], literals⟩) :
    OneLiteral q after (used ++ rest) literals := by
  obtain ⟨⟨out, ls⟩, hs, h⟩ := Option.map_eq_some_iff.1 h
  simp only [Cut.content, Cut.mk.injEq] at h
  obtain ⟨rfl, rfl⟩ := h
  obtain ⟨more, w, rfl, rfl, hmore⟩ := ih hs
  refine ⟨used ++ more, cs ++ w, by simp, rfl, ?_⟩
  rw [List.length_append, List.length_append, List.count_append]
  omega

theorem length_escaped {c : Char} (h : c ≠ '%' ∧ c ≠ '_') : (escaped c).length = 1 := by
  unfold escaped
  split
  case h_7 => exact absurd rfl h.1
  case h_8 => exact absurd rfl h.2
  all_goals rfl

theorem oneLiteral_of_scan (hq : q ≠ '%' ∧ q ≠ '_') {t : List Char}
    (h : scan (some q) t = some ⟨[after], literals⟩) : OneLiteral q after t literals := by
  generalize hm : some q = m at h
  fun_induction scan m t generalizing literals with
  | case1 | case2 | case3 => contradiction
  | case4 | case8 => contradiction
  | case5 | case7 =>
    obtain rfl := Option.some.inj hm
    exact .finish h
  | case6 _ rest ih =>
    obtain rfl := Option.some.inj hm
    exact .content [q, q] (by simp) (ih hm) h
  | case9 _ d rest hback ih =>
    obtain rfl := Option.some.inj hm
    refine .content ['\\', d] ?_ (ih hm) h
    rw [List.count_cons_of_ne hback]
    -- The backslash is kept in front of a percent sign or an underscore.
    by_cases hpercent : d = '%'
    · simp [hpercent, escaped, hq.1.symm]
    by_cases hunderscore : d = '_'
    · simp [hunderscore, escaped, hq.2.symm]
    have hcount := List.count_le_length (a := q) (l := [d])
    rw [length_escaped ⟨hpercent, hunderscore⟩]
    simp only [List.length_cons, List.length_nil] at hcount ⊢
    omega
  | case10 _ c rest hquote _ ih =>
    obtain rfl := Option.some.inj hm
    exact .content [c] (by simp [List.count_cons_of_ne hquote]) (ih hm) h

/-- The first characters of a literal are read, and then the others. -/
theorem scan_content_iff (hq : q ≠ '%' ∧ q ≠ '_') (cs w : List Char) :
    (scan (some q) rest).map (Cut.content cs) = some ⟨[after], [cs ++ w]⟩ ↔
      scan (some q) rest = some ⟨[after], [w]⟩ := by
  constructor
  · intro h
    obtain ⟨⟨out, ls⟩, hs, h⟩ := Option.map_eq_some_iff.1 h
    simp only [Cut.content, Cut.mk.injEq] at h
    obtain ⟨rfl, hls⟩ := h
    obtain ⟨-, w', -, rfl, -⟩ := oneLiteral_of_scan hq hs
    have hw : w' = w := by simpa [extend] using hls
    rw [hs, hw]
  · intro h
    rw [h]
    rfl

end

end Inventory.Sql
