import Inventory.Json.Skip
import Inventory.Proofs.Json.Indented

/-!
# What a scan takes off the front

A scan that succeeds has taken a piece off the front of its text, and takes the same piece wherever
it stands: what follows does not matter, except that a number must not go on. Blanks may stand
between any two pieces. Main statements: `nextItem_eq_more`, `nextName_eq_more` and
`scanColon_eq_ok` (what stands between the parts of a list), `scanChars_piece` and
`skipChars_piece` (what stands between quotes).
-/

namespace Inventory.Json

variable {cs t rest xs : List Char} {c : Char} {first : Bool}

/-! ## Blanks -/

/-- Blanks and nothing else. -/
def Gap (cs : List Char) : Prop := ∀ c ∈ cs, isGap c = true

theorem gap_nil : Gap [] := by
  intro c hc
  contradiction

theorem Gap.append {l r : List Char} (hl : Gap l) (hr : Gap r) : Gap (l ++ r) := by
  intro c hc
  rcases List.mem_append.1 hc with hc | hc
  · exact hl c hc
  · exact hr c hc

theorem skipBlanks_gap {gap : List Char} (h : Gap gap) (cs : List Char) :
    skipBlanks (gap ++ cs) = skipBlanks cs :=
  skipBlanks_append h cs

theorem Gap.skipBlanks_eq (h : Gap cs) : skipBlanks cs = [] := by
  have hblanks := skipBlanks_gap h []
  rwa [List.append_nil] at hblanks

/-- A text is what `skipBlanks` leaves of it after blanks. -/
theorem exists_gap (cs : List Char) : ∃ gap, Gap gap ∧ cs = gap ++ skipBlanks cs := by
  induction cs with
  | nil => exact ⟨[], gap_nil, rfl⟩
  | cons c cs ih =>
    obtain ⟨gap, hgap, hcs⟩ := ih
    by_cases hc : isGap c = true
    · refine ⟨c :: gap, List.forall_mem_cons.2 ⟨hc, hgap⟩, ?_⟩
      rw [skipBlanks_blank hc, List.cons_append, ← hcs]
    · refine ⟨[], gap_nil, ?_⟩
      rw [skipBlanks_of_ne (Bool.eq_false_iff.2 hc), List.nil_append]

theorem isGap_of_skipBlanks (h : skipBlanks cs = c :: t) : isGap c = false := by
  induction cs with
  | nil => contradiction
  | cons d cs ih =>
    by_cases hd : isGap d = true
    · rw [skipBlanks_blank hd] at h
      exact ih h
    · rw [skipBlanks_of_ne (Bool.eq_false_iff.2 hd)] at h
      obtain ⟨rfl, -⟩ := List.cons.inj h
      exact Bool.eq_false_iff.2 hd

/-- After blanks comes a character that is none. -/
theorem skipBlanks_eq_cons :
    skipBlanks cs = c :: t ↔ isGap c = false ∧ ∃ gap, Gap gap ∧ cs = gap ++ c :: t := by
  constructor
  · intro h
    obtain ⟨gap, hgap, hcs⟩ := exists_gap cs
    exact ⟨isGap_of_skipBlanks h, gap, hgap, h ▸ hcs⟩
  · rintro ⟨hc, gap, hgap, rfl⟩
    rw [skipBlanks_gap hgap, skipBlanks_of_ne hc]

theorem skipBlanks_eq_char (hc : isGap c = false) :
    skipBlanks cs = c :: t ↔ ∃ gap, Gap gap ∧ cs = gap ++ c :: t := by
  rw [skipBlanks_eq_cons, and_iff_right hc]

/-- Blanks may follow a number, in front of anything else that may. -/
theorem Gap.stops {gap : List Char} (h : Gap gap) (hrest : Stops rest) : Stops (gap ++ rest) := by
  cases gap with
  | nil => exact hrest
  | cons c gap => exact stops_gap (h c (List.mem_cons_self ..)) _

/-! ## Between the parts of a list -/

/-- What stands in front of an item or a name: blanks, and a comma among them unless it is the
first. -/
def Sep : Bool → List Char → Prop
  | true, sep => Gap sep
  | false, sep => ∃ l r, Gap l ∧ Gap r ∧ sep = l ++ ',' :: r

/-- What stands between a name and its value. -/
def Colon (colon : List Char) : Prop := ∃ l r, Gap l ∧ Gap r ∧ colon = l ++ ':' :: r

theorem Sep.stops {sep : List Char} (h : Sep false sep) (t rest : List Char) :
    Stops (sep ++ t ++ rest) := by
  obtain ⟨l, r, hl, -, rfl⟩ := h
  rw [List.append_assoc, List.append_assoc]
  exact hl.stops (stops_cons (List.mem_cons_self ..) _)

theorem nextItem_eq_closed :
    nextItem first cs = .ok (.closed rest) ↔ ∃ gap, Gap gap ∧ cs = gap ++ ']' :: rest := by
  rw [← skipBlanks_eq_char (by decide), nextItem]
  cases skipBlanks cs with
  | nil => simp
  | cons c t =>
    by_cases hc : c = ']'
    · simp [hc]
    · -- In every other case the list goes on or is malformed.
      simp only [hc, if_false, List.cons.injEq, false_and, iff_false]
      grind

theorem nextItem_eq_more :
    nextItem first cs = .ok (.more t) ↔ Opens t ∧ ∃ sep, Sep first sep ∧ cs = sep ++ t := by
  constructor
  · intro h
    unfold nextItem at h
    split at h
    · contradiction
    next c u hcs =>
    obtain ⟨hc, gap, hgap, rfl⟩ := skipBlanks_eq_cons.1 hcs
    split at h
    · simp at h
    next hclose =>
    split at h
    · next hfirst =>
      obtain rfl : c :: u = t := by simpa using h
      rw [hfirst]
      exact ⟨.cons hc hclose u, gap, hgap, rfl⟩
    next hfirst =>
    rw [Bool.not_eq_true] at hfirst
    split at h
    · next hcomma =>
      split at h
      · contradiction
      next d v hu =>
      obtain ⟨hd, gap', hgap', rfl⟩ := skipBlanks_eq_cons.1 hu
      split at h
      · contradiction
      next hclose' =>
      obtain rfl : d :: v = t := by simpa using h
      rw [hfirst, hcomma]
      exact ⟨.cons hd hclose' v, gap ++ ',' :: gap', ⟨gap, gap', hgap, hgap', rfl⟩, by simp⟩
    · contradiction
  · rintro ⟨hopens, sep, hsep, rfl⟩
    have hblanks := skipBlanks_open hopens
    obtain ⟨c, u, rfl, -, hc⟩ := hopens
    cases first with
    | true =>
      rw [nextItem, skipBlanks_gap hsep, hblanks]
      simp only [if_neg hc, if_true]
    | false =>
      obtain ⟨l, r, hl, hr, rfl⟩ := hsep
      have hcomma (cs : List Char) : skipBlanks (',' :: cs) = ',' :: cs := rfl
      rw [List.append_assoc, List.cons_append, nextItem, skipBlanks_gap hl, hcomma]
      simp [skipBlanks_gap hr, hblanks, hc]

theorem nextName_eq_closed :
    nextName first cs = .ok (.closed rest) ↔ ∃ gap, Gap gap ∧ cs = gap ++ '}' :: rest := by
  rw [← skipBlanks_eq_char (by decide), nextName]
  cases skipBlanks cs with
  | nil => simp
  | cons c t =>
    by_cases hc : c = '}'
    · simp [hc]
    · simp only [hc, if_false, List.cons.injEq, false_and, iff_false]
      grind

theorem nextName_eq_more :
    nextName first cs = .ok (.more t) ↔ ∃ sep, Sep first sep ∧ cs = sep ++ '"' :: t := by
  constructor
  · intro h
    unfold nextName at h
    split at h
    · contradiction
    next c u hcs =>
    obtain ⟨-, gap, hgap, rfl⟩ := skipBlanks_eq_cons.1 hcs
    split at h
    · simp at h
    split at h
    · next hfirst =>
      split at h
      · next hquote =>
        obtain rfl : u = t := by simpa using h
        rw [hfirst, hquote]
        exact ⟨gap, hgap, rfl⟩
      · contradiction
    next hfirst =>
    rw [Bool.not_eq_true] at hfirst
    split at h
    · next hcomma =>
      split at h
      · contradiction
      next d v hu =>
      obtain ⟨-, gap', hgap', rfl⟩ := skipBlanks_eq_cons.1 hu
      split at h
      · next hquote =>
        obtain rfl : v = t := by simpa using h
        rw [hfirst, hcomma, hquote]
        exact ⟨gap ++ ',' :: gap', ⟨gap, gap', hgap, hgap', rfl⟩, by simp⟩
      · contradiction
    · contradiction
  · rintro ⟨sep, hsep, rfl⟩
    have hquote (cs : List Char) : skipBlanks ('"' :: cs) = '"' :: cs := rfl
    have hcomma (cs : List Char) : skipBlanks (',' :: cs) = ',' :: cs := rfl
    cases first with
    | true =>
      rw [nextName, skipBlanks_gap hsep, hquote]
      rfl
    | false =>
      obtain ⟨l, r, hl, hr, rfl⟩ := hsep
      rw [List.append_assoc, List.cons_append, nextName, skipBlanks_gap hl, hcomma]
      simp [skipBlanks_gap hr, hquote]

theorem scanColon_eq_ok :
    scanColon cs = .ok rest ↔ ∃ gap, Gap gap ∧ cs = gap ++ ':' :: rest := by
  rw [← skipBlanks_eq_char (by decide), scanColon]
  cases skipBlanks cs with
  | nil => simp
  | cons c t => by_cases hc : c = ':' <;> simp [hc]

theorem scanArrayEnd_eq_ok :
    scanArrayEnd cs = .ok rest ↔ ∃ gap, Gap gap ∧ cs = gap ++ ']' :: rest := by
  rw [← skipBlanks_eq_char (by decide), scanArrayEnd]
  cases skipBlanks cs with
  | nil => simp
  | cons c t => by_cases hc : c = ']' <;> simp [hc]

/-! ## Between quotes -/

theorem before_eq_ok {found : Except Misread (List Char × List Char)} :
    before c found = .ok (xs, rest) ↔ ∃ ys, found = .ok (ys, rest) ∧ xs = c :: ys := by
  cases found with
  | error e => simp [before, Except.map]
  | ok p =>
    obtain ⟨ys, t⟩ := p
    simp only [before, Except.map, Except.ok.injEq, Prod.mk.injEq]
    constructor
    · rintro ⟨rfl, rfl⟩
      exact ⟨ys, ⟨rfl, rfl⟩, rfl⟩
    · rintro ⟨_, ⟨rfl, rfl⟩, rfl⟩
      exact ⟨rfl, rfl⟩

section
variable {h₁ h₂ h₃ h₄ : Char} {n : Nat}

/-- The escape by number of a unit that is no half of a pair is read as that character. -/
theorem scanChars_unit (h : unit? h₁ h₂ h₃ h₄ = some n) (htrailing : ¬ isTrailing n = true)
    (hleading : ¬ isLeading n = true) (t : List Char) :
    scanChars ('\\' :: 'u' :: h₁ :: h₂ :: h₃ :: h₄ :: t)
      = before (Char.ofNat n) (scanChars t) := by
  rw [scanChars.eq_def]
  simp [h, htrailing, hleading]

/-- The escapes by number of the halves of a pair are read as the character of the pair. -/
theorem scanChars_pair {k₁ k₂ k₃ k₄ : Char} {m : Nat} (h : unit? h₁ h₂ h₃ h₄ = some n)
    (htrailing : ¬ isTrailing n = true) (hleading : isLeading n = true)
    (hk : unit? k₁ k₂ k₃ k₄ = some m) (hm : isTrailing m = true) (t : List Char) :
    scanChars ('\\' :: 'u' :: h₁ :: h₂ :: h₃ :: h₄ :: '\\' :: 'u' :: k₁ :: k₂ :: k₃ :: k₄ :: t)
      = before (pairChar n m) (scanChars t) := by
  rw [scanChars.eq_def]
  simp [h, htrailing, hleading, hk, hm]

theorem skipChars_unit (h : unit? h₁ h₂ h₃ h₄ = some n) (t : List Char) :
    skipChars ('\\' :: 'u' :: h₁ :: h₂ :: h₃ :: h₄ :: t) = skipChars t := by
  rw [skipChars.eq_def]
  simp [h]

end

theorem skipChars_short {e d : Char} (he : ¬ e = 'u') (hd : shortEscape? e = some d)
    (t : List Char) : skipChars ('\\' :: e :: t) = skipChars t := by
  rw [skipChars.eq_def]
  simp [he, hd]

theorem skipChars_plain (hquote : ¬ c = '"') (hback : ¬ c = '\\') (h : ¬ c.toNat < 0x20)
    (t : List Char) : skipChars (c :: t) = skipChars t := by
  rw [skipChars.eq_def]
  simp [hquote, hback, h]

/-- The scan takes a piece off the front of `cs`, and takes it wherever it stands in front of
anything that may follow a number. -/
def Piece {β : Type} (scan found : List Char → β) (cs rest : List Char) : Prop :=
  ∃ piece, cs = piece ++ rest ∧ ∀ r, Stops r → scan (piece ++ r) = found r

/-- A piece with something in front of it that the scan passes on. -/
theorem Piece.grow {β : Type} {scan found : List Char → β} (h : Piece scan found t rest)
    (front : List Char) {g : β → β} (hfront : ∀ u, scan (front ++ u) = g (scan u)) :
    Piece scan (fun r => g (found r)) (front ++ t) rest := by
  obtain ⟨piece, rfl, hpiece⟩ := h
  refine ⟨front ++ piece, (List.append_assoc ..).symm, fun r hr => ?_⟩
  rw [List.append_assoc, hfront, hpiece r hr]

/-- The text between quotes begins with `front`, which is read as the character `c`. -/
structure Letter (front : List Char) (c : Char) : Prop where
  scan : ∀ t, scanChars (front ++ t) = before c (scanChars t)
  skip : ∀ t, skipChars (front ++ t) = skipChars t

/-- What is read up to a closing quote is that quote, or a letter with more after it. -/
theorem scanChars_cases (h : scanChars cs = .ok (xs, rest)) :
    xs = [] ∧ cs = '"' :: rest ∨
    ∃ front t c ys, Letter front c ∧ cs = front ++ t ∧ xs = c :: ys ∧
      scanChars t = .ok (ys, rest) := by
  -- The induction is only for its cases: each names the letter in front.
  fun_induction scanChars cs with
  | case2 t =>
    obtain ⟨rfl, rfl⟩ : [] = xs ∧ t = rest := by simpa using h
    exact .inl ⟨rfl, rfl⟩
  | case7 h₁ h₂ h₃ h₄ n hn htrailing hleading x y k₁ k₂ k₃ k₄ t hxy m hm hsecond _ _ =>
    obtain ⟨ys, hys, rfl⟩ := before_eq_ok.1 h
    obtain ⟨rfl, rfl⟩ := hxy
    exact .inr ⟨['\\', 'u', h₁, h₂, h₃, h₄, '\\', 'u', k₁, k₂, k₃, k₄], t, _, ys,
      ⟨scanChars_pair hn htrailing hleading hm hsecond,
        fun t => (skipChars_unit hn _).trans (skipChars_unit hm t)⟩, rfl, rfl, hys⟩
  | case11 h₁ h₂ h₃ h₄ t n hn htrailing hleading _ _ =>
    obtain ⟨ys, hys, rfl⟩ := before_eq_ok.1 h
    exact .inr ⟨['\\', 'u', h₁, h₂, h₃, h₄], t, _, ys,
      ⟨scanChars_unit hn htrailing hleading, skipChars_unit hn⟩, rfl, rfl, hys⟩
  | case13 e t he d hd _ _ =>
    obtain ⟨ys, hys, rfl⟩ := before_eq_ok.1 h
    exact .inr ⟨['\\', e], t, d, ys, ⟨scanChars_short he hd, skipChars_short he hd⟩, rfl, rfl, hys⟩
  | case16 c t hquote hback hplain _ =>
    obtain ⟨ys, hys, rfl⟩ := before_eq_ok.1 h
    exact .inr ⟨[c], t, c, ys,
      ⟨scanChars_plain hquote hback hplain, skipChars_plain hquote hback hplain⟩, rfl, rfl, hys⟩
  | _ => contradiction

/-- What is read up to a closing quote is read wherever it stands. -/
theorem scanChars_piece :
    ∀ {xs cs : List Char}, scanChars cs = .ok (xs, rest) →
      Piece scanChars (fun r => .ok (xs, r)) cs rest := by
  intro xs
  induction xs with
  | nil =>
    intro cs h
    rcases scanChars_cases h with ⟨-, rfl⟩ | ⟨_, _, _, _, _, _, hxs, _⟩
    · exact ⟨['"'], rfl, fun r _ => scanChars_quote r⟩
    · contradiction
  | cons c xs ih =>
    intro cs h
    rcases scanChars_cases h with ⟨hxs, -⟩ | ⟨front, t, d, ys, hletter, rfl, hxs, hys⟩
    · contradiction
    · obtain ⟨rfl, rfl⟩ := List.cons.inj hxs
      exact (ih hys).grow front hletter.scan

/-- What is read as a text is passed over as one. -/
theorem skipChars_of_scanChars :
    ∀ {xs cs : List Char}, scanChars cs = .ok (xs, rest) → skipChars cs = .ok rest := by
  intro xs
  induction xs with
  | nil =>
    intro cs h
    rcases scanChars_cases h with ⟨-, rfl⟩ | ⟨_, _, _, _, _, _, hxs, _⟩
    · exact skipChars_quote rest
    · contradiction
  | cons c xs ih =>
    intro cs h
    rcases scanChars_cases h with ⟨hxs, -⟩ | ⟨front, t, d, ys, hletter, rfl, hxs, hys⟩
    · contradiction
    · obtain ⟨rfl, rfl⟩ := List.cons.inj hxs
      rw [hletter.skip]
      exact ih hys

/-- What is passed over up to a closing quote is passed over wherever it stands. -/
theorem skipChars_piece (h : skipChars cs = .ok rest) : Piece skipChars .ok cs rest := by
  fun_induction skipChars cs with
  | case2 t =>
    obtain rfl : t = rest := by simpa using h
    exact ⟨['"'], rfl, fun r _ => skipChars_quote r⟩
  | case5 h₁ h₂ h₃ h₄ t n hn _ ih =>
    exact (ih h).grow ['\\', 'u', h₁, h₂, h₃, h₄] (g := id) (skipChars_unit hn)
  | case7 e t he d hd _ ih =>
    exact (ih h).grow ['\\', e] (g := id) (skipChars_short he hd)
  | case10 c t hquote hback hplain ih =>
    exact (ih h).grow [c] (g := id) (skipChars_plain hquote hback hplain)
  | _ => contradiction

end Inventory.Json
