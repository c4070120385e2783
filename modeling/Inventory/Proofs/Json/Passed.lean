import Inventory.Proofs.Json.Piece

/-!
# Values that are passed over

A value that nobody wants is passed over as one piece: it ends at the same place whatever follows
it, whether it is passed over by itself or among others. What is read as a text or as a list of
texts is a value in this sense. The proof follows the steps of the pass, from leaf to leaf, with
the open brackets as they are. Main statements: `skipFrom_piece` (what a pass takes, from any
place), `skipValue_isValue` (a value is passed over wherever it stands) and `isValue_of_skip`
(whatever is passed over is a value).
-/

namespace Inventory.Json

variable {cs t rest r piece : List Char} {c : Char}

/-! ## Numbers and words -/

/-- The text does not begin with a digit. -/
def NoDigit (cs : List Char) : Prop := ∀ c ∈ cs.head?, c.isDigit = false

theorem Stops.noDigit (h : Stops cs) : NoDigit cs := fun c hc => (h c hc).1

theorem stops_colon (t : List Char) : Stops (':' :: t) := by
  intro c hc
  obtain rfl : ':' = c := by simpa using hc
  decide

/-- A piece in front of something else begins like the piece in front of what it was in front of,
or, if it is empty, like what is put there. -/
theorem head_piece {P : Char → Prop} (h : ∀ c ∈ (piece ++ rest).head?, P c)
    (hr : ∀ c ∈ r.head?, P c) : ∀ c ∈ (piece ++ r).head?, P c := by
  cases piece with
  | nil => exact hr
  | cons c piece => exact h

theorem scanWord_eq_ok {word : List Char} : scanWord word cs = .ok rest ↔ cs = word ++ rest := by
  induction word generalizing cs with
  | nil => simp [scanWord]
  | cons w word ih =>
    cases cs with
    | nil => simp [scanWord]
    | cons c cs =>
      rw [scanWord]
      split
      · next hc => rw [ih, hc, List.cons_append, List.cons.injEq, eq_self, true_and]
      · next hc => simp [hc]

theorem skipDigits_append {digits : List Char} (h : ∀ c ∈ digits, c.isDigit = true)
    (hr : NoDigit r) : skipDigits (digits ++ r) = r := by
  induction digits with
  | nil =>
    cases r with
    | nil => rfl
    | cons c r => simp [skipDigits, hr c rfl]
  | cons d digits ih =>
    obtain ⟨hd, hdigits⟩ := List.forall_mem_cons.1 h
    rw [List.cons_append, skipDigits, if_pos hd, ih hdigits]

theorem exists_digits (cs : List Char) : NoDigit (skipDigits cs) ∧
    ∃ digits, (∀ c ∈ digits, c.isDigit = true) ∧ cs = digits ++ skipDigits cs := by
  induction cs with
  | nil => exact ⟨by simp [NoDigit, skipDigits], [], by simp, rfl⟩
  | cons c cs ih =>
    obtain ⟨hrest, digits, hdigits, hcs⟩ := ih
    rw [skipDigits]
    split
    · next hc =>
      exact ⟨hrest, c :: digits, List.forall_mem_cons.2 ⟨hc, hdigits⟩, by
        rw [List.cons_append, ← hcs]⟩
    · next hc => exact ⟨by simpa [NoDigit] using hc, [], by simp, rfl⟩

/-- One digit and those that follow it are passed over. -/
theorem skipSomeDigits_eq_ok : skipSomeDigits cs = .ok rest ↔ NoDigit rest ∧
    ∃ d digits, (∀ c ∈ d :: digits, c.isDigit = true) ∧ cs = d :: digits ++ rest := by
  constructor
  · intro h
    cases cs with
    | nil => contradiction
    | cons c cs =>
      rw [skipSomeDigits] at h
      split at h
      · next hc =>
        obtain rfl : skipDigits cs = rest := by simpa using h
        obtain ⟨hrest, digits, hdigits, hcs⟩ := exists_digits cs
        exact ⟨hrest, c, digits, List.forall_mem_cons.2 ⟨hc, hdigits⟩, by
          rw [List.cons_append, ← hcs]⟩
      · contradiction
  · rintro ⟨hrest, d, digits, hdigits, rfl⟩
    obtain ⟨hd, hdigits⟩ := List.forall_mem_cons.1 hdigits
    rw [List.cons_append, skipSomeDigits, if_pos hd, skipDigits_append hdigits hrest]

/-- Passes over the digits of a power of ten with their sign. -/
def skipPlaces : List Char → Except Misread (List Char)
  | '+' :: rest => skipSomeDigits rest
  | '-' :: rest => skipSomeDigits rest
  | rest => skipSomeDigits rest

theorem skipExponent_cons (c : Char) (t : List Char) :
    skipExponent (c :: t) = if c = 'e' ∨ c = 'E' then skipPlaces t else .ok (c :: t) := by
  rw [skipExponent.eq_def]
  rfl

theorem skipPlaces_eq_ok : skipPlaces cs = .ok rest ↔ NoDigit rest ∧
    ∃ sign d digits, sign ∈ [[], ['+'], ['-']] ∧ (∀ c ∈ d :: digits, c.isDigit = true) ∧
      cs = sign ++ (d :: digits ++ rest) := by
  constructor
  · intro h
    unfold skipPlaces at h
    split at h
    · obtain ⟨hrest, d, digits, hdigits, rfl⟩ := skipSomeDigits_eq_ok.1 h
      exact ⟨hrest, ['+'], d, digits, by simp, hdigits, rfl⟩
    · obtain ⟨hrest, d, digits, hdigits, rfl⟩ := skipSomeDigits_eq_ok.1 h
      exact ⟨hrest, ['-'], d, digits, by simp, hdigits, rfl⟩
    · obtain ⟨hrest, d, digits, hdigits, rfl⟩ := skipSomeDigits_eq_ok.1 h
      exact ⟨hrest, [], d, digits, by simp, hdigits, rfl⟩
  · rintro ⟨hrest, sign, d, digits, hsign, hdigits, rfl⟩
    have hread := skipSomeDigits_eq_ok.2 ⟨hrest, d, digits, hdigits, rfl⟩
    simp only [List.mem_cons, List.not_mem_nil, or_false] at hsign
    rcases hsign with rfl | rfl | rfl
    · -- A digit is no sign.
      have hd := hdigits d (List.mem_cons_self ..)
      have hplus : d ≠ '+' := fun heq => absurd (heq ▸ hd) (by decide)
      have hminus : d ≠ '-' := fun heq => absurd (heq ▸ hd) (by decide)
      unfold skipPlaces
      split
      · next heq => exact absurd (List.cons.inj heq).1 hplus
      · next heq => exact absurd (List.cons.inj heq).1 hminus
      · exact hread
    · exact hread
    · exact hread

theorem skipExponent_stops (h : Stops r) : skipExponent r = .ok r := by
  cases r with
  | nil => rfl
  | cons c r =>
    obtain ⟨-, -, he, hE⟩ := h c rfl
    rw [skipExponent_cons, if_neg (by simp [he, hE])]

theorem skipExponent_piece (h : skipExponent cs = .ok rest) :
    Piece skipExponent .ok cs rest := by
  cases cs with
  | nil =>
    obtain rfl : [] = rest := by simpa [skipExponent] using h
    exact ⟨[], rfl, fun r hr => skipExponent_stops hr⟩
  | cons c cs =>
    rw [skipExponent_cons] at h
    split at h
    · next hc =>
      obtain ⟨-, sign, d, digits, hsign, hdigits, rfl⟩ := skipPlaces_eq_ok.1 h
      refine ⟨c :: (sign ++ d :: digits), by simp, fun r hr => ?_⟩
      rw [List.cons_append, skipExponent_cons, if_pos hc]
      exact skipPlaces_eq_ok.2 ⟨hr.noDigit, sign, d, digits, hsign, hdigits, by simp⟩
    · obtain rfl : c :: cs = rest := by simpa using h
      exact ⟨[], rfl, fun r hr => skipExponent_stops hr⟩

/-- Passes over the whole part of a number. -/
def skipWhole : List Char → Except Misread (List Char)
  | '0' :: d :: rest => if d.isDigit then .error .malformed else .ok (d :: rest)
  | cs => skipSomeDigits cs

/-- Passes over the decimals of a number and its power of ten. -/
def skipFraction : List Char → Except Misread (List Char)
  | '.' :: rest => do
    let rest ← skipSomeDigits rest
    skipExponent rest
  | rest => skipExponent rest

theorem skipWhole_zero (d : Char) (t : List Char) :
    skipWhole ('0' :: d :: t) = if d.isDigit then .error .malformed else .ok (d :: t) := rfl

theorem skipWhole_digits (h : ∀ d t, cs ≠ '0' :: d :: t) : skipWhole cs = skipSomeDigits cs := by
  unfold skipWhole
  split
  · exact absurd rfl (h _ _)
  · rfl

theorem skipUnsigned_eq (cs : List Char) : skipUnsigned cs = skipWhole cs >>= skipFraction := by
  unfold skipUnsigned
  split
  · rw [skipWhole_zero]
    split
    · rfl
    · rfl
  · next hzero =>
    rw [skipWhole_digits hzero]
    rfl

/-- The whole part of a number is a zero alone, or digits. -/
theorem skipWhole_piece (h : skipWhole cs = .ok rest) : NoDigit rest ∧
    ∃ d piece, cs = d :: (piece ++ rest) ∧
      ∀ r, NoDigit r → skipWhole (d :: (piece ++ r)) = .ok r := by
  have hzero (r : List Char) (hr : NoDigit r) : skipWhole ('0' :: r) = .ok r := by
    cases r with
    | nil => rfl
    | cons e r => exact if_neg (Bool.eq_false_iff.1 (hr e rfl))
  by_cases hcs : ∃ d t, cs = '0' :: d :: t
  · obtain ⟨d, t, rfl⟩ := hcs
    rw [skipWhole_zero] at h
    split at h
    · contradiction
    next hd =>
    obtain rfl : d :: t = rest := by simpa using h
    exact ⟨by simpa [NoDigit] using hd, '0', [], rfl, hzero⟩
  · rw [skipWhole_digits fun d t heq => hcs ⟨d, t, heq⟩] at h
    obtain ⟨hrest, d, digits, hdigits, rfl⟩ := skipSomeDigits_eq_ok.1 h
    refine ⟨hrest, d, digits, rfl, fun r hr => ?_⟩
    by_cases hnext : ∃ e t, d :: (digits ++ r) = '0' :: e :: t
    · -- A zero that was passed over as a digit stood at the end of the text.
      obtain ⟨e, t, heq⟩ := hnext
      obtain ⟨rfl, htail⟩ := List.cons.inj heq
      cases digits with
      | nil => exact hzero r hr
      | cons x digits => exact absurd ⟨x, digits ++ rest, rfl⟩ hcs
    · rw [skipWhole_digits fun e t heq => hnext ⟨e, t, heq⟩]
      exact skipSomeDigits_eq_ok.2 ⟨hr, d, digits, hdigits, rfl⟩

/-- What may follow the whole part of a number is decided by what it stood in front of. -/
theorem skipFraction_piece (h : skipFraction cs = .ok rest) :
    Piece skipFraction .ok cs rest := by
  unfold skipFraction at h
  split at h
  · next t =>
    obtain ⟨mid, hmid, hexponent⟩ := bind_eq_ok.1 h
    obtain ⟨hdigit, d, digits, hdigits, rfl⟩ := skipSomeDigits_eq_ok.1 hmid
    obtain ⟨piece, rfl, hpiece⟩ := skipExponent_piece hexponent
    refine ⟨'.' :: (d :: digits ++ piece), by simp, fun r hr => ?_⟩
    have hread := skipSomeDigits_eq_ok.2
      ⟨head_piece hdigit hr.noDigit, d, digits, hdigits, rfl⟩
    rw [List.cons_append, List.append_assoc]
    exact (ok_bind hread _).trans (hpiece r hr)
  · next hdot =>
    obtain ⟨piece, rfl, hpiece⟩ := skipExponent_piece h
    refine ⟨piece, rfl, fun r hr => ?_⟩
    have hfirst : ∀ c ∈ (piece ++ rest).head?, c ≠ '.' := by
      rintro c hc rfl
      obtain ⟨u, hu⟩ := List.head?_eq_some_iff.1 hc
      exact hdot u hu
    have hnext : ∀ c ∈ (piece ++ r).head?, c ≠ '.' :=
      head_piece hfirst fun c hc => (hr c hc).2.1
    unfold skipFraction
    split
    · next u heq => exact absurd rfl (hnext '.' (by rw [heq]; rfl))
    · exact hpiece r hr

theorem skipUnsigned_piece (h : skipUnsigned cs = .ok rest) :
    ∃ d piece, cs = d :: (piece ++ rest) ∧
      ∀ r, Stops r → skipUnsigned (d :: (piece ++ r)) = .ok r := by
  rw [skipUnsigned_eq] at h
  obtain ⟨mid, hmid, hfraction⟩ := bind_eq_ok.1 h
  obtain ⟨hdigit, d, whole, rfl, hwhole⟩ := skipWhole_piece hmid
  obtain ⟨piece, rfl, hpiece⟩ := skipFraction_piece hfraction
  refine ⟨d, whole ++ piece, by simp, fun r hr => ?_⟩
  rw [skipUnsigned_eq, List.append_assoc, ok_bind (hwhole _ (head_piece hdigit hr.noDigit))]
  exact hpiece r hr

/-! ## Values -/

theorem scanWord_piece {word : List Char} (h : scanWord word cs = .ok rest) :
    Piece (scanWord word) .ok cs rest :=
  ⟨word, scanWord_eq_ok.1 h, fun _ _ => scanWord_eq_ok.2 rfl⟩

/-- A value that is neither array nor object is passed over as one piece. -/
theorem skipPlain_piece (h : skipPlain c t = .ok rest) : Piece (skipPlain c) .ok t rest := by
  unfold skipPlain at h ⊢
  split at h
  · next hc => simpa only [if_pos hc] using scanWord_piece h
  next hnull =>
  split at h
  · next hc => simpa only [if_neg hnull, if_pos hc] using scanWord_piece h
  next htrue =>
  split at h
  · next hc => simpa only [if_neg hnull, if_neg htrue, if_pos hc] using scanWord_piece h
  next hfalse =>
  simp only [if_neg hnull, if_neg htrue, if_neg hfalse]
  split at h
  · next hc => simpa only [if_pos hc] using skipChars_piece h
  next hquote =>
  simp only [if_neg hquote]
  split at h
  · next hc =>
    obtain ⟨d, piece, rfl, hpiece⟩ := skipUnsigned_piece h
    simp only [if_pos hc]
    exact ⟨d :: piece, rfl, hpiece⟩
  next hminus =>
  simp only [if_neg hminus]
  split at h
  · next hc =>
    obtain ⟨d, piece, heq, hpiece⟩ := skipUnsigned_piece h
    obtain ⟨rfl, rfl⟩ := List.cons.inj heq
    simp only [if_pos hc]
    exact ⟨piece, rfl, hpiece⟩
  · contradiction

/-- A name with its colon is passed over wherever it stands; items have none. -/
theorem skipName_piece {bracket : Bracket} (h : skipName bracket cs = .ok rest) :
    ∃ piece, cs = piece ++ rest ∧ ∀ r, skipName bracket (piece ++ r) = .ok r := by
  cases bracket with
  | array =>
    obtain rfl : cs = rest := by simpa [skipName] using h
    exact ⟨[], rfl, fun r => rfl⟩
  | object =>
    unfold skipName at h
    dsimp only at h
    split at h
    · contradiction
    next c t hcs =>
    obtain ⟨-, gap, hgap, rfl⟩ := skipBlanks_eq_cons.1 hcs
    split at h
    · next hc =>
      obtain ⟨mid, hmid, hcolon⟩ := bind_eq_ok.1 h
      obtain ⟨letters, rfl, hletters⟩ := skipChars_piece hmid
      obtain ⟨gap', hgap', rfl⟩ := scanColon_eq_ok.1 hcolon
      refine ⟨gap ++ c :: (letters ++ (gap' ++ [':'])), by simp, fun r => ?_⟩
      have htext : gap ++ c :: (letters ++ (gap' ++ [':'])) ++ r
          = gap ++ c :: (letters ++ (gap' ++ ':' :: r)) := by simp
      have hblanks : skipBlanks (gap ++ c :: (letters ++ (gap' ++ ':' :: r)))
          = c :: (letters ++ (gap' ++ ':' :: r)) :=
        skipBlanks_eq_cons.2 ⟨by rw [hc]; rfl, gap, hgap, rfl⟩
      unfold skipName
      simp only [htext, hblanks, if_pos hc]
      rw [ok_bind (hletters _ (hgap'.stops (stops_colon r)))]
      exact scanColon_eq_ok.2 ⟨gap', hgap', rfl⟩
    · contradiction

section
variable {m : Nat} {brackets : List Bracket} {gap : List Char}

theorem skipFrom_value (hgap : Gap gap) (hc : isGap c = false) :
    skipFrom (m + 1) .value brackets (gap ++ c :: t) =
      if c = '[' then skipFrom m .opened (.array :: brackets) t
      else if c = '{' then skipFrom m .opened (.object :: brackets) t
      else skipPlain c t >>= skipFrom m .after brackets := by
  rw [skipFrom, skipBlanks_eq_cons.2 ⟨hc, gap, hgap, rfl⟩]

theorem skipFrom_opened {bracket : Bracket} (hgap : Gap gap) (hc : isGap c = false) :
    skipFrom (m + 1) .opened (bracket :: brackets) (gap ++ c :: t) =
      if c = bracket.closing then skipFrom m .after brackets t
      else skipName bracket (c :: t) >>= skipFrom m .value (bracket :: brackets) := by
  rw [skipFrom, skipBlanks_eq_cons.2 ⟨hc, gap, hgap, rfl⟩]

theorem skipFrom_after {bracket : Bracket} (hgap : Gap gap) (hc : isGap c = false) :
    skipFrom (m + 1) .after (bracket :: brackets) (gap ++ c :: t) =
      if c = bracket.closing then skipFrom m .after brackets t
      else if c = ',' then skipName bracket t >>= skipFrom m .value (bracket :: brackets)
      else .error .malformed := by
  rw [skipFrom, skipBlanks_eq_cons.2 ⟨hc, gap, hgap, rfl⟩]

end

/-- After an item comes a comma or a bracket, if there is a bracket to close. -/
theorem stops_after {n : Nat} {brackets : List Bracket}
    (h : skipFrom n .after brackets cs = .ok rest) : cs = rest ∨ Stops cs := by
  match n, brackets with
  | 0, _ => contradiction
  | n + 1, [] => exact .inl (by simpa [skipFrom] using h)
  | n + 1, bracket :: brackets =>
    right
    cases hcs : skipBlanks cs with
    | nil =>
      rw [skipFrom, hcs] at h
      contradiction
    | cons c t =>
      obtain ⟨hc, gap, hgap, rfl⟩ := skipBlanks_eq_cons.1 hcs
      rw [skipFrom_after hgap hc] at h
      refine hgap.stops (stops_cons ?_ t)
      by_cases hclose : c = bracket.closing
      · cases bracket with
        | array => simp [hclose, Bracket.closing]
        | object => simp [hclose, Bracket.closing]
      · rw [if_neg hclose] at h
        by_cases hcomma : c = ','
        · simp [hcomma]
        · rw [if_neg hcomma] at h
          contradiction

/-- Steps that suffice for passing over so many characters from a place. -/
def Place.steps : Place → Nat → Nat
  | .value, n => 2 * n
  | _, n => 2 * n + 1

/-- The pass takes a piece off the front of `cs`, and takes it wherever it stands, with any steps
that suffice. -/
def Passed (place : Place) (brackets : List Bracket) (cs rest : List Char) : Prop :=
  ∃ piece, cs = piece ++ rest ∧ ∀ m r, place.steps piece.length ≤ m → r = rest ∨ Stops r →
    skipFrom m place brackets (piece ++ r) = .ok r

/-- One step of the pass takes a character and what belongs to it, the others take the rest of the
piece. -/
theorem Passed.step {place place' : Place} {brackets brackets' : List Bracket}
    {gap : List Char} (front : List Char) (h : Passed place' brackets' t rest)
    (hfront : ∀ m p r, t = p ++ rest → r = rest ∨ Stops r →
      skipFrom (m + 1) place brackets (gap ++ c :: (front ++ (p ++ r)))
        = skipFrom m place' brackets' (p ++ r)) :
    Passed place brackets (gap ++ c :: (front ++ t)) rest := by
  obtain ⟨p, ht, hp⟩ := h
  have hmost : place'.steps p.length ≤ 2 * p.length + 1 := by
    cases place' <;> simp only [Place.steps] <;> omega
  have hleast : 2 * p.length + 2 ≤ place.steps (gap ++ c :: (front ++ p)).length := by
    simp only [List.length_append, List.length_cons]
    cases place <;> simp only [Place.steps] <;> omega
  refine ⟨gap ++ c :: (front ++ p), by simp [ht], fun m r hm hr => ?_⟩
  obtain ⟨m, rfl⟩ := Nat.exists_eq_add_one_of_ne_zero (show m ≠ 0 by omega)
  have htext : gap ++ c :: (front ++ p) ++ r = gap ++ c :: (front ++ (p ++ r)) := by simp
  rw [htext, hfront m p r ht hr]
  exact hp m r (by omega) hr

/-- Nothing is no value. -/
theorem ne_nil_of_skip {m : Nat} {brackets : List Bracket}
    (h : skipFrom m .value brackets cs = .ok rest) : cs ≠ [] := by
  rintro rfl
  cases m with
  | zero => contradiction
  | succ m => contradiction

/-- What the pass takes, from any place and with any brackets open. -/
theorem skipFrom_piece {n : Nat} {place : Place} {brackets : List Bracket}
    (h : skipFrom n place brackets cs = .ok rest) : Passed place brackets cs rest := by
  fun_induction skipFrom n place brackets cs with
  | case3 n brackets cs t hcs ih =>
    obtain ⟨hc, gap, hgap, rfl⟩ := skipBlanks_eq_cons.1 hcs
    exact (ih h).step [] fun m p r _ _ => skipFrom_value hgap hc
  | case4 n brackets cs t hcs hbracket ih =>
    obtain ⟨hc, gap, hgap, rfl⟩ := skipBlanks_eq_cons.1 hcs
    exact (ih h).step [] fun m p r _ _ => skipFrom_value hgap hc
  | case5 n brackets cs c t hcs harray hobject ih =>
    obtain ⟨hc, gap, hgap, rfl⟩ := skipBlanks_eq_cons.1 hcs
    obtain ⟨mid, hmid, hafter⟩ := bind_eq_ok.1 h
    obtain ⟨letters, rfl, hletters⟩ := skipPlain_piece hmid
    refine (ih mid hafter).step letters fun m p r hp hr => ?_
    have hplain : skipPlain c (letters ++ (p ++ r)) = .ok (p ++ r) := by
      rcases hr with rfl | hr
      · rw [← hp]
        exact hmid
      · refine hletters _ ?_
        rcases stops_after hafter with rfl | hstops
        · obtain rfl : p = [] := by simpa using hp
          exact hr
        · exact head_piece (hp ▸ hstops) hr
    rw [skipFrom_value hgap hc, if_neg harray, if_neg hobject, ok_bind hplain]
  | case8 n bracket brackets cs t hcs ih =>
    obtain ⟨hc, gap, hgap, rfl⟩ := skipBlanks_eq_cons.1 hcs
    exact (ih h).step [] fun m p r _ _ => (skipFrom_opened hgap hc).trans (if_pos rfl)
  | case9 n bracket brackets cs c t hcs hclose ih =>
    -- An item is taken from where it begins, so this step may take nothing but blanks.
    obtain ⟨hc, gap, hgap, rfl⟩ := skipBlanks_eq_cons.1 hcs
    obtain ⟨mid, hmid, hvalue⟩ := bind_eq_ok.1 h
    obtain ⟨name, hname, hskip⟩ := skipName_piece hmid
    obtain ⟨p, rfl, hp⟩ := ih mid hvalue
    have hne : p ++ [] ≠ [] := ne_nil_of_skip (hp _ [] (Nat.le_refl _) (.inr stops_nil))
    rw [List.append_nil] at hne
    obtain ⟨q, hq⟩ : ∃ q, name ++ p = c :: q := by
      cases hnp : name ++ p with
      | nil => exact absurd (List.append_eq_nil_iff.1 hnp).2 hne
      | cons d q =>
        rw [← List.append_assoc, hnp] at hname
        rw [(List.cons.inj hname).1]
        exact ⟨q, rfl⟩
    refine ⟨gap ++ (name ++ p), by rw [hname]; simp, fun m r hm hr => ?_⟩
    have hlength : 2 * p.length + 1 ≤ m := by
      simp only [Place.steps, List.length_append] at hm
      omega
    obtain ⟨m, rfl⟩ := Nat.exists_eq_add_one_of_ne_zero (show m ≠ 0 by omega)
    have hnext := hskip (p ++ r)
    rw [← List.append_assoc, hq, List.cons_append] at hnext
    rw [List.append_assoc, hq, List.cons_append, skipFrom_opened hgap hc, if_neg hclose,
      ok_bind hnext]
    exact hp m r (by simp only [Place.steps]; omega) hr
  | case10 n cs =>
    obtain rfl : cs = rest := by simpa using h
    refine ⟨[], rfl, fun m r hm _ => ?_⟩
    simp only [Place.steps] at hm
    obtain ⟨m, rfl⟩ := Nat.exists_eq_add_one_of_ne_zero (show m ≠ 0 by omega)
    rfl
  | case12 n bracket brackets cs t hcs ih =>
    obtain ⟨hc, gap, hgap, rfl⟩ := skipBlanks_eq_cons.1 hcs
    exact (ih h).step [] fun m p r _ _ => (skipFrom_after hgap hc).trans (if_pos rfl)
  | case13 n bracket brackets cs t hcs hclose ih =>
    obtain ⟨hc, gap, hgap, rfl⟩ := skipBlanks_eq_cons.1 hcs
    obtain ⟨mid, hmid, hvalue⟩ := bind_eq_ok.1 h
    obtain ⟨name, rfl, hname⟩ := skipName_piece hmid
    refine (ih mid hvalue).step name fun m p r _ _ => ?_
    rw [skipFrom_after hgap hc, if_neg hclose, if_pos rfl, ok_bind (hname _)]
  | _ => contradiction

/-! ## One value -/

/-- The text is one value without blanks around it. -/
def IsValue (v : List Char) : Prop := skipBlanks v = v ∧ skipValue v = .ok []

theorem skipFrom_gap {n : Nat} {brackets : List Bracket} {gap : List Char} (hgap : Gap gap)
    (cs : List Char) :
    skipFrom n .value brackets (gap ++ cs) = skipFrom n .value brackets cs := by
  cases n with
  | zero => rfl
  | succ n => rw [skipFrom, skipFrom, skipBlanks_gap hgap]

/-- What is passed over in some steps is passed over in two for each character. -/
theorem skipValue_of_skip {n : Nat} (h : skipFrom n .value [] cs = .ok rest) :
    skipValue cs = .ok rest := by
  obtain ⟨piece, rfl, hskip⟩ := skipFrom_piece h
  refine hskip _ rest ?_ (.inl rfl)
  simp only [Place.steps, List.length_append]
  omega

/-- Whatever is passed over is a value after blanks. -/
theorem isValue_of_skip {n : Nat} (h : skipFrom n .value [] cs = .ok rest) :
    ∃ gap v, Gap gap ∧ cs = gap ++ (v ++ rest) ∧ IsValue v := by
  obtain ⟨gap, hgap, hcs⟩ := exists_gap cs
  rw [hcs, skipFrom_gap hgap] at h
  obtain ⟨v, hv, hskip⟩ := skipFrom_piece h
  have hvalue := hskip (2 * v.length + 2) [] (by simp only [Place.steps]; omega)
    (.inr stops_nil)
  rw [List.append_nil] at hvalue
  refine ⟨gap, v, hgap, hv ▸ hcs, ?_, hvalue⟩
  cases v with
  | nil => rfl
  | cons c v => exact skipBlanks_of_ne (isGap_of_skipBlanks hv) v

section
variable {v : List Char} (h : IsValue v)
include h

/-- A value is passed over wherever it stands. -/
theorem skipValue_isValue {gap : List Char} (hgap : Gap gap) (hr : Stops r) :
    skipValue (gap ++ (v ++ r)) = .ok r := by
  obtain ⟨piece, hpiece, hskip⟩ := skipFrom_piece h.2
  rw [List.append_nil] at hpiece
  subst hpiece
  rw [skipValue, skipFrom_gap hgap]
  refine hskip _ r ?_ (.inr hr)
  simp only [Place.steps, List.length_append]
  omega

theorem IsValue.opens : Opens v := by
  obtain ⟨hblanks, hskip⟩ := h
  cases v with
  | nil => contradiction
  | cons c t =>
    refine .cons (isGap_of_skipBlanks hblanks) ?_ t
    rintro rfl
    contradiction

end

/-! ## Texts -/

/-- What is read as a text is passed over as one value. -/
theorem skipFrom_text {b : Budget} {s : String} (h : Schema.text.scan b cs = .ok (s, rest))
    (m : Nat) (brackets : List Bracket) :
    skipFrom (m + 1) .value brackets cs = skipFrom m .after brackets rest := by
  simp only [Schema.text] at h
  split at h
  · next t hcs =>
    obtain ⟨hc, gap, hgap, rfl⟩ := skipBlanks_eq_cons.1 hcs
    cases hread : scanChars t with
    | error e =>
      rw [scanText, hread] at h
      contradiction
    | ok p =>
      rw [scanText, hread] at h
      obtain ⟨-, rfl⟩ : String.ofList p.1 = s ∧ p.2 = rest := by simpa [Except.map] using h
      have hskip : skipPlain '"' t = .ok p.2 := skipChars_of_scanChars hread
      rw [skipFrom_value hgap hc]
      exact ok_bind hskip _
  · contradiction

/-- What is read as the items of a list of texts is passed over up to its bracket. -/
theorem skipFrom_texts {b : Budget} :
    ∀ {steps : Nat} {first : Bool} {cs : List Char} {xs : List String},
      scanItems (Schema.text.scan b) steps first cs = .ok (xs, rest) →
      ∃ m, skipFrom m (if first then .opened else .after) [.array] cs = .ok rest := by
  intro steps
  induction steps with
  | zero => intro first cs xs h; contradiction
  | succ steps ih =>
    intro first cs xs h
    rw [scanItems] at h
    obtain ⟨next, hnext, h⟩ := bind_eq_ok.1 h
    cases next with
    | closed t =>
      obtain ⟨-, rfl⟩ : [] = xs ∧ t = rest := by simpa using h
      obtain ⟨gap, hgap, rfl⟩ := nextItem_eq_closed.1 hnext
      refine ⟨2, ?_⟩
      cases first with
      | true => exact (skipFrom_opened hgap (by decide)).trans (if_pos rfl)
      | false => exact (skipFrom_after hgap (by decide)).trans (if_pos rfl)
    | more t =>
      obtain ⟨⟨x, tail⟩, hx, h⟩ := bind_eq_ok.1 h
      obtain ⟨⟨ys, tail'⟩, hys, h⟩ := bind_eq_ok.1 h
      obtain ⟨-, rfl⟩ : x :: ys = xs ∧ tail' = rest := by simpa using h
      obtain ⟨m, hm⟩ := ih hys
      have hitem := (skipFrom_text hx m [.array]).trans hm
      obtain ⟨hopens, sep, hsep, rfl⟩ := nextItem_eq_more.1 hnext
      obtain ⟨c, u, rfl, hc, hclose⟩ := hopens
      refine ⟨m + 2, ?_⟩
      cases first with
      | true => exact (skipFrom_opened hsep hc).trans ((if_neg hclose).trans hitem)
      | false =>
        obtain ⟨l, r, hl, hr, rfl⟩ := hsep
        rw [List.append_assoc, List.cons_append]
        refine (skipFrom_after hl (by decide)).trans ?_
        rw [if_neg (by decide), if_pos rfl]
        exact (skipFrom_gap hr _).trans hitem

end Inventory.Json
