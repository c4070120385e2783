import Inventory.Json.Writer
import Inventory.Json.Scan
import Inventory.Proofs.Except

/-!
# Reading back texts and numbers

What is written between the quotes of a text is read as that text, and the digits of a whole number
as that number, whatever follows. A number may stop wherever its digits cannot go on. Main
statements: `scanText_render`, `scanNumber_append` (a number is read the same in front of something
else) and `scanNumber_whole`.
-/

namespace Inventory.Json

open Inventory.Text

/-! ## Texts -/

theorem value?_hexDigit {n : Nat} (h : n < 16) : Hex.value? (Literal.hexDigit n) = some n := by
  have all : ∀ m ∈ List.range 16, Hex.value? (Literal.hexDigit m) = some m := by decide
  exact all n (List.mem_range.2 h)

/-- The escape by number of a control gives that number. -/
theorem unit?_control {n : Nat} (h : n < 0x20) :
    unit? '0' '0' (Literal.hexDigit (n / 16)) (Literal.hexDigit (n % 16)) = some n := by
  have hzero : Hex.value? '0' = some 0 := by decide
  rw [unit?, hzero, value?_hexDigit (by omega), value?_hexDigit (by omega)]
  simp only [Option.some.injEq]
  omega

theorem scanChars_quote (rest : List Char) : scanChars ('"' :: rest) = .ok ([], rest) := by
  rw [scanChars.eq_def]
  rfl

/-- A letter after a backslash is read as what it stands for. -/
theorem scanChars_short {e c : Char} (he : e ≠ 'u') (hc : shortEscape? e = some c)
    (rest : List Char) : scanChars ('\\' :: e :: rest) = before c (scanChars rest) := by
  have hquote : ¬ '\\' = '"' := by decide
  rw [scanChars.eq_def]
  simp only [hquote, he, if_false, if_true, hc]

/-- The escape by number of a control is read as that control. -/
theorem scanChars_control {c : Char} (h : c.toNat < 0x20) (rest : List Char) :
    scanChars (['\\', 'u', '0', '0', Literal.hexDigit (c.toNat / 16),
      Literal.hexDigit (c.toNat % 16)] ++ rest) = before c (scanChars rest) := by
  have hquote : ¬ '\\' = '"' := by decide
  have htrailing : isTrailing c.toNat = false := by simp [isTrailing]; omega
  have hleading : isLeading c.toNat = false := by simp [isLeading]; omega
  rw [scanChars.eq_def]
  simp only [List.cons_append, List.nil_append, hquote, if_false, if_true, unit?_control h,
    htrailing, hleading, Bool.false_eq_true, Char.ofNat_toNat]

/-- A character that need not be escaped is read as itself. -/
theorem scanChars_plain {c : Char} (hquote : c ≠ '"') (hback : c ≠ '\\') (h : ¬ c.toNat < 0x20)
    (rest : List Char) : scanChars (c :: rest) = before c (scanChars rest) := by
  rw [scanChars.eq_def]
  simp only [hquote, hback, h, if_false]

/-- A character is read back as it is written between the quotes. -/
theorem scanChars_encodeChar (c : Char) (rest : List Char) :
    scanChars (Literal.encodeChar c ++ rest) = before c (scanChars rest) := by
  have hshort {e : Char} (he : e ≠ 'u') (hc : shortEscape? e = some c) :=
    scanChars_short he hc rest
  unfold Literal.encodeChar
  -- The cases are the tests of the writer: seven characters have a short escape, then come the
  -- other controls.
  split
  · next h => subst h; exact hshort (by decide) (by decide)
  split
  · next h => subst h; exact hshort (by decide) (by decide)
  split
  · next h => subst h; exact hshort (by decide) (by decide)
  split
  · next h => subst h; exact hshort (by decide) (by decide)
  split
  · next h => subst h; exact hshort (by decide) (by decide)
  split
  · next h => subst h; exact hshort (by decide) (by decide)
  split
  · next h => subst h; exact hshort (by decide) (by decide)
  split
  · next h => exact scanChars_control h rest
  · next hquote hback _ _ _ _ _ hplain => exact scanChars_plain hquote hback hplain rest

/-- A text is read back up to its closing quote. -/
theorem scanChars_encode (rest : List Char) :
    ∀ cs : List Char, scanChars (Literal.encode cs ++ '"' :: rest) = .ok (cs, rest)
  | [] => by
    rw [Literal.encode_nil, List.nil_append, scanChars_quote]
  | c :: cs => by
    rw [Literal.encode_cons, List.append_assoc, scanChars_encodeChar, scanChars_encode rest cs]
    rfl

/-- A text is read back as it is written, after its opening quote. -/
theorem scanText_render (s : String) (rest : List Char) :
    scanText (Literal.encode s.toList ++ '"' :: rest) = .ok (s, rest) := by
  rw [scanText, scanChars_encode]
  simp [Except.map]

/-! ## Numbers -/

/-- What may follow a number: nothing that its digits could go on with. -/
def Stops (rest : List Char) : Prop :=
  ∀ c ∈ rest.head?, c.isDigit = false ∧ c ≠ '.' ∧ c ≠ 'e' ∧ c ≠ 'E'

theorem stops_nil : Stops [] := by
  intro c hc
  contradiction

theorem stops_cons {c : Char} (h : c ∈ [',', ']', '}']) (rest : List Char) : Stops (c :: rest) := by
  intro d hd
  obtain rfl : c = d := by simpa using hd
  simp only [List.mem_cons, List.not_mem_nil, or_false] at h
  rcases h with rfl | rfl | rfl
  · decide
  · decide
  · decide

section
variable {rest : List Char} (hrest : Stops rest)
include hrest

theorem scanDigits_before (n count : Nat) (cs : List Char) :
    scanDigits n count (cs ++ rest) = ((scanDigits n count cs).1, (scanDigits n count cs).2.1,
      (scanDigits n count cs).2.2 ++ rest) := by
  induction cs generalizing n count with
  | nil =>
    cases rest with
    | nil => rfl
    | cons c rest => simp [scanDigits, (hrest c rfl).1]
  | cons c cs ih =>
    rw [List.cons_append, scanDigits, scanDigits]
    split
    · exact ih ..
    · rfl

theorem scanWhole_before {cs r : List Char} {n : Nat} (h : scanWhole cs = .ok (n, r)) :
    scanWhole (cs ++ rest) = .ok (n, r ++ rest) := by
  match cs with
  | [] => simp [scanWhole] at h
  | c :: cs =>
    rw [List.cons_append]
    by_cases hzero : c = '0'
    · -- A number that begins with a zero has no further digit, so `rest` must not begin with one.
      simp only [scanWhole, hzero, if_true] at h ⊢
      match cs with
      | [] =>
        obtain ⟨rfl, rfl⟩ : 0 = n ∧ [] = r := by simpa using h
        cases rest with
        | nil => rfl
        | cons d rest => simp [(hrest d rfl).1]
      | d :: cs =>
        rw [List.cons_append]
        dsimp only at h ⊢
        split at h
        · contradiction
        · next hd =>
          obtain ⟨rfl, rfl⟩ : 0 = n ∧ d :: cs = r := by simpa using h
          rw [if_neg hd]
          rfl
    · simp only [scanWhole, hzero, if_false, scanDigits_before hrest] at h ⊢
      split at h
      · next hd =>
        rw [if_pos hd]
        injection h with h
        obtain ⟨rfl, rfl⟩ := Prod.mk.inj h
        rfl
      · contradiction

theorem scanPlaces_before {negative : Bool} {cs r : List Char} {n : Int}
    (h : scanPlaces negative cs = .ok (n, r)) :
    scanPlaces negative (cs ++ rest) = .ok (n, r ++ rest) := by
  match cs with
  | [] => contradiction
  | c :: cs =>
    simp only [List.cons_append, scanPlaces, scanDigits_before hrest] at h ⊢
    split at h
    · next hd =>
      obtain ⟨rfl, rfl⟩ : _ = n ∧ _ = r := by simpa using h
      rw [if_pos hd]
    · contradiction

theorem scanExponent_before {cs r : List Char} {n : Int} (h : scanExponent cs = .ok (n, r)) :
    scanExponent (cs ++ rest) = .ok (n, r ++ rest) := by
  match cs with
  | [] => contradiction
  | c :: cs =>
    rw [List.cons_append, scanExponent]
    rw [scanExponent] at h
    split at h
    · next hplus => rw [if_pos hplus]; exact scanPlaces_before hrest h
    · next hplus =>
      rw [if_neg hplus]
      split at h
      · next hminus => rw [if_pos hminus]; exact scanPlaces_before hrest h
      · next hminus => rw [if_neg hminus]; exact scanPlaces_before hrest h

theorem scanDecimals_before {cs r : List Char} {n m places : Nat}
    (h : scanDecimals n cs = .ok (m, places, r)) :
    scanDecimals n (cs ++ rest) = .ok (m, places, r ++ rest) := by
  rw [scanDecimals, scanDigits_before hrest]
  rw [scanDecimals] at h
  match hd : scanDigits n 0 cs with
  | (k, 0, []) => rw [hd] at h; contradiction
  | (k, 0, d :: ds) => rw [hd] at h; contradiction
  | (k, p + 1, ds) =>
    rw [hd] at h
    obtain ⟨rfl, rfl, rfl⟩ : k = m ∧ p + 1 = places ∧ ds = r := by simpa using h
    rfl

theorem scanPower_before {negative : Bool} {digits places : Nat}
    {plain : Except Misread Number} {cs r : List Char} {x : Number}
    (h : scanPower negative digits places plain cs = .ok (x, r)) :
    scanPower negative digits places plain (cs ++ rest) = .ok (x, r ++ rest) := by
  match cs with
  | [] =>
    obtain ⟨y, hy, h⟩ := bind_eq_ok.1 h
    obtain ⟨rfl, rfl⟩ : y = x ∧ [] = r := by simpa using h
    match rest with
    | [] => exact ok_bind hy _
    | c :: rest =>
      obtain ⟨-, -, he, hE⟩ := hrest c rfl
      rw [List.nil_append, scanPower, if_neg (by simp [he, hE])]
      exact ok_bind hy _
  | c :: cs =>
    rw [List.cons_append, scanPower]
    rw [scanPower] at h
    split at h
    · next hmark =>
      obtain ⟨⟨k, tail⟩, hk, h⟩ := bind_eq_ok.1 h
      obtain ⟨y, hy, h⟩ := bind_eq_ok.1 h
      obtain ⟨rfl, rfl⟩ : y = x ∧ tail = r := by simpa using h
      rw [if_pos hmark, ok_bind (scanExponent_before hrest hk)]
      exact ok_bind hy _
    · next hmark =>
      obtain ⟨y, hy, h⟩ := bind_eq_ok.1 h
      obtain ⟨rfl, rfl⟩ : y = x ∧ c :: cs = r := by simpa using h
      rw [if_neg hmark]
      exact ok_bind hy _

theorem scanFraction_before {negative : Bool} {whole : Nat} {cs r : List Char} {x : Number}
    (h : scanFraction negative whole cs = .ok (x, r)) :
    scanFraction negative whole (cs ++ rest) = .ok (x, r ++ rest) := by
  match cs with
  | [] =>
    rw [scanFraction] at h
    have hnext := scanPower_before hrest h
    match rest with
    | [] => exact hnext
    | c :: rest =>
      obtain ⟨-, hdot, -, -⟩ := hrest c rfl
      rw [List.nil_append, scanFraction, if_neg hdot]
      exact hnext
  | c :: cs =>
    rw [List.cons_append, scanFraction]
    rw [scanFraction] at h
    split at h
    · next hdot =>
      obtain ⟨⟨digits, places, tail⟩, hdecimals, h⟩ := bind_eq_ok.1 h
      rw [if_pos hdot, ok_bind (scanDecimals_before hrest hdecimals)]
      exact scanPower_before hrest h
    · next hdot =>
      rw [if_neg hdot]
      exact scanPower_before hrest h

theorem scanUnsigned_before {negative : Bool} {cs r : List Char} {x : Number}
    (h : scanUnsigned negative cs = .ok (x, r)) :
    scanUnsigned negative (cs ++ rest) = .ok (x, r ++ rest) := by
  obtain ⟨⟨whole, tail⟩, hwhole, h⟩ := bind_eq_ok.1 h
  rw [scanUnsigned, ok_bind (scanWhole_before hrest hwhole)]
  exact scanFraction_before hrest h

/-- A number is read the same in front of something that it cannot go on with. -/
theorem scanNumber_append {cs r : List Char} {x : Number} (h : scanNumber cs = .ok (x, r)) :
    scanNumber (cs ++ rest) = .ok (x, r ++ rest) := by
  match cs with
  | [] => contradiction
  | c :: cs =>
    rw [List.cons_append, scanNumber]
    rw [scanNumber] at h
    split at h
    · next hminus => rw [if_pos hminus]; exact scanUnsigned_before hrest h
    · next hminus => rw [if_neg hminus]; exact scanUnsigned_before hrest h

end

/-- The digits of a positive number do not begin with a zero. -/
theorem head?_toDigits {n : Nat} (h : 0 < n) : (Nat.toDigits 10 n).head? ≠ some '0' := by
  rw [Nat.toDigits_eq_if (by decide)]
  split
  · next hlt =>
    have all : ∀ m ∈ List.range 10, 0 < m → [Nat.digitChar m].head? ≠ some '0' := by decide
    exact all n (List.mem_range.2 hlt) h
  · next hge =>
    -- The first digit is that of the number without its last digit.
    rw [List.head?_append, Option.or_of_isSome]
    · exact head?_toDigits (by omega)
    · rw [List.isSome_head?]
      exact Nat.toDigits_ne_nil

theorem scanWhole_toDigits (n : Nat) : scanWhole (Nat.toDigits 10 n) = .ok (n, []) := by
  by_cases hzero : n = 0
  · subst hzero
    rfl
  · have hhead := head?_toDigits (Nat.pos_of_ne_zero hzero)
    have hvalue : Nat.ofDigitChars 10 (Nat.toDigits 10 n) 0 = n := Nat.ofDigitChars_ten_toDigits
    have hdigit : ∀ c ∈ Nat.toDigits 10 n, c.isDigit = true := fun c hc =>
      Nat.isDigit_of_mem_toDigits (by decide) (by decide) hc
    match hd : Nat.toDigits 10 n with
    | [] => exact absurd hd Nat.toDigits_ne_nil
    | c :: ds =>
      rw [hd] at hhead hvalue hdigit
      have hc : c ≠ '0' := fun hc => hhead (by rw [hc]; rfl)
      have hds := scanDigits_append [] (by simp) ds (c.toNat - 48) 1 fun d hd =>
        hdigit d (List.mem_cons_of_mem _ hd)
      rw [List.append_nil] at hds
      have hstep : (fun n (d : Char) => n * 10 + (d.toNat - 48))
          = fun n (d : Char) => 10 * n + (d.toNat - '0'.toNat) := by
        funext n d
        rw [Nat.mul_comm]
        rfl
      rw [Nat.ofDigitChars_cons, Nat.ofDigitChars_eq_foldl, Nat.mul_zero, Nat.zero_add] at hvalue
      simp only [scanWhole, if_neg hc, if_pos (hdigit c (List.mem_cons_self ..)), hds, hstep]
      rw [← hvalue]
      rfl

/-- A whole number is read back as it is written. -/
theorem scanNumber_whole {n : Int} (h : FitsWord n) :
    scanNumber (Number.renderWhole n) = .ok (.whole n h, []) := by
  have hread {negative : Bool} (hn : Number.ofWhole negative n.natAbs = some (.whole n h)) :
      scanUnsigned negative (Nat.toDigits 10 n.natAbs) = .ok (.whole n h, []) := by
    rw [scanUnsigned, ok_bind (scanWhole_toDigits n.natAbs)]
    show (wholeOf negative n.natAbs >>= fun x => .ok (x, [])) = _
    rw [wholeOf, hn]
    rfl
  rw [Number.renderWhole]
  split
  · next hneg =>
    have hsize : -(n.natAbs : Int) = n := by omega
    rw [scanNumber, if_pos rfl]
    refine hread ?_
    have hfits : FitsWord n ∧ ¬ (True ∧ n.natAbs = 0) := ⟨h, by omega⟩
    simp only [Number.ofWhole, if_true, hsize]
    rw [dif_pos hfits]
  · next hpos =>
    have hsize : (n.natAbs : Int) = n := by omega
    have hminus : '-' ∉ Nat.toDigits 10 n.natAbs := fun hmem =>
      absurd (Nat.isDigit_of_mem_toDigits (by decide) (by decide) hmem) (by decide)
    have hnumber : scanNumber (Nat.toDigits 10 n.natAbs)
        = scanUnsigned false (Nat.toDigits 10 n.natAbs) := by
      cases hd : Nat.toDigits 10 n.natAbs with
      | nil => exact absurd hd Nat.toDigits_ne_nil
      | cons c ds =>
        rw [hd] at hminus
        have hc : c ≠ '-' := fun hc => hminus (by rw [hc]; exact List.mem_cons_self ..)
        rw [scanNumber, if_neg hc]
    rw [hnumber]
    refine hread ?_
    simp [Number.ofWhole, hsize, h]

end Inventory.Json
