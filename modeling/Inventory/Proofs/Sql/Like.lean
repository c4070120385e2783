import Inventory.Text.Caseless
import Mathlib.Data.List.Infix

/-!
# Patterns of LIKE

In a pattern a percent sign stands for any run of characters, an underscore for any one character,
and a backslash takes the meaning from the character after it. A text that has none of these between
two percent signs is looked for as it is; with one of them the pattern fits some text that does not
contain it. Main statements: `like_framed` (when what stands between percent signs is looked for as
it is) and `like_of_occursIn` (without backslashes nothing is missed).
-/

namespace Inventory.Sql.Like

open Inventory.Text (occursIn occursIn_iff)

/-! ## Patterns and what they fit -/

/-- What one place of a pattern stands for. -/
inductive Item where
  /-- Any run of characters. -/
  | run
  /-- Any one character. -/
  | one
  | char (c : Char)
  deriving DecidableEq

/-- The character has a meaning of its own in a pattern. -/
def isWild (c : Char) : Bool := c == '%' || c == '_' || c == '\\'

/-- The items of a pattern. A backslash at the very end has nothing to take a meaning from and
stands for itself. -/
def items : List Char → List Item
  | [] => []
  | c :: rest =>
    if c = '%' then .run :: items rest
    else if c = '_' then .one :: items rest
    else if c = '\\' then
      match rest with
      | [] => [.char c]
      | d :: rest => .char d :: items rest
    else .char c :: items rest

/-- The items fit the whole text. -/
def fits : List Item → List Char → Bool
  | [], text => text.isEmpty
  | .run :: is, text => text.tails.any (fits is)
  | .one :: _, [] => false
  | .one :: is, _ :: text => fits is text
  | .char _ :: _, [] => false
  | .char c :: is, d :: text => c == d && fits is text

/-- The text is like the pattern. -/
def like (pattern text : List Char) : Bool := fits (items pattern) text

theorem items_run (cs : List Char) : items ('%' :: cs) = .run :: items cs := by
  cases cs <;> rfl

theorem items_one (cs : List Char) : items ('_' :: cs) = .one :: items cs := by
  cases cs <;> rfl

theorem items_backslash (c : Char) (cs : List Char) :
    items ('\\' :: c :: cs) = .char c :: items cs :=
  rfl

/-- A character without a meaning of its own stands for itself. -/
theorem items_char {c : Char} (hc : isWild c = false) (cs : List Char) :
    items (c :: cs) = .char c :: items cs := by
  simp only [isWild, Bool.or_eq_false_iff, beq_eq_false_iff_ne] at hc
  cases cs <;> simp only [items, if_neg hc.1.1, if_neg hc.1.2, if_neg hc.2]

theorem fits_run {is : List Item} {text : List Char} :
    fits (.run :: is) text = true ↔
      ∃ before after, text = before ++ after ∧ fits is after = true := by
  rw [fits, List.any_eq_true]
  constructor
  · rintro ⟨after, hafter, hfits⟩
    obtain ⟨before, hbefore⟩ := (List.mem_tails _ _).1 hafter
    exact ⟨before, after, hbefore.symm, hfits⟩
  · rintro ⟨before, after, htext, hfits⟩
    exact ⟨after, (List.mem_tails _ _).2 ⟨before, htext.symm⟩, hfits⟩

/-- A run may be empty. -/
theorem fits_run_of_fits {is : List Item} {text : List Char} (h : fits is text = true) :
    fits (.run :: is) text = true :=
  fits_run.2 ⟨[], text, rfl, h⟩

/-- A run at the end takes whatever is left. -/
theorem fits_last_run (text : List Char) : fits [.run] text = true :=
  fits_run.2 ⟨text, [], (List.append_nil _).symm, rfl⟩

theorem fits_char_cons (c : Char) (is : List Item) (text : List Char) :
    fits (.char c :: is) (c :: text) = fits is text := by
  rw [fits, beq_self_eq_true, Bool.true_and]

/-! ## Plain text in a pattern -/

/-- No character has a meaning of its own. -/
def Plain (cs : List Char) : Prop := ∀ c ∈ cs, isWild c = false

theorem items_plain {cs : List Char} (h : Plain cs) (more : List Char) :
    items (cs ++ more) = cs.map .char ++ items more := by
  induction cs with
  | nil => rfl
  | cons c cs ih =>
    obtain ⟨hc, hcs⟩ := List.forall_mem_cons.1 h
    rw [List.cons_append, items_char hc, ih hcs, List.map_cons, List.cons_append]

/-- Characters that stand for themselves fit what begins with them. -/
theorem fits_chars {cs : List Char} {is : List Item} :
    ∀ {text : List Char}, fits (cs.map .char ++ is) text = true ↔
      ∃ after, text = cs ++ after ∧ fits is after = true := by
  induction cs with
  | nil =>
    intro text
    exact ⟨fun h => ⟨text, rfl, h⟩, fun ⟨after, htext, hfits⟩ => htext ▸ hfits⟩
  | cons c cs ih =>
    intro text
    cases text with
    | nil => simp [fits]
    | cons d text =>
      rw [List.map_cons, List.cons_append, fits, Bool.and_eq_true, beq_iff_eq, ih]
      constructor
      · rintro ⟨rfl, after, rfl, hfits⟩
        exact ⟨after, rfl, hfits⟩
      · rintro ⟨after, htext, hfits⟩
        obtain ⟨hd, htext⟩ := List.cons.inj htext
        exact ⟨hd.symm, after, htext, hfits⟩

/-- The pattern of whatever contains a text, if the text is plain. -/
def framed (cs : List Char) : List Char := '%' :: (cs ++ ['%'])

theorem like_framed_of_plain {cs : List Char} (h : Plain cs) (text : List Char) :
    like (framed cs) text = true ↔ occursIn cs text = true := by
  rw [like, framed, items_run, items_plain h, items_run, fits_run, occursIn_iff]
  constructor
  · rintro ⟨before, found, rfl, hfits⟩
    obtain ⟨after, rfl, -⟩ := fits_chars.1 hfits
    exact ⟨before, after, (List.append_assoc ..).symm⟩
  · rintro ⟨before, after, rfl⟩
    refine ⟨before, cs ++ after, List.append_assoc .., ?_⟩
    exact fits_chars.2 ⟨after, rfl, fits_last_run after⟩

/-! ## Text with characters of a meaning of their own -/

/-- A text without backslashes is among what it fits as a pattern. -/
theorem fits_items_append {more after : List Char} (hmore : fits (items more) after = true) :
    ∀ {cs : List Char}, '\\' ∉ cs → fits (items (cs ++ more)) (cs ++ after) = true
  | [], _ => hmore
  | c :: cs, h => by
    have hc : '\\' ≠ c := fun he => h (he ▸ List.mem_cons_self ..)
    have hcs : '\\' ∉ cs := fun hmem => h (List.mem_cons_of_mem _ hmem)
    have ih := fits_items_append hmore hcs
    rw [List.cons_append, List.cons_append]
    by_cases hrun : c = '%'
    · rw [hrun, items_run]
      exact fits_run.2 ⟨['%'], cs ++ after, rfl, ih⟩
    by_cases hone : c = '_'
    · rw [hone, items_one]
      exact ih
    have hplain : isWild c = false := by
      simp only [isWild, Bool.or_eq_false_iff, beq_eq_false_iff_ne]
      exact ⟨⟨hrun, hone⟩, hc.symm⟩
    rw [items_char hplain, fits_char_cons]
    exact ih

/-- Without backslashes nothing that contains the text is missed. -/
theorem like_of_occursIn {cs text : List Char} (h : '\\' ∉ cs) (hoccurs : occursIn cs text = true) :
    like (framed cs) text = true := by
  obtain ⟨before, after, rfl⟩ := occursIn_iff.1 hoccurs
  have hend : fits (items ['%']) after = true := fits_last_run after
  rw [like, framed, items_run, List.append_assoc]
  exact fits_run.2 ⟨before, cs ++ after, rfl, fits_items_append hend h⟩

/-- A text that the items fit, with nothing for a run. -/
def sample : List Item → List Char
  | [] => []
  | .run :: is => sample is
  | .one :: is => 'x' :: sample is
  | .char c :: is => c :: sample is

theorem fits_sample : ∀ is : List Item, fits is (sample is) = true
  | [] => rfl
  | .run :: is => fits_run_of_fits (fits_sample is)
  | .one :: is => fits_sample is
  | .char c :: is => by
    rw [sample, fits_char_cons]
    exact fits_sample is

/-- What a text stands for in front of a percent sign is no longer than the text, and it is the text
itself only if that is plain. -/
theorem sample_items :
    ∀ cs : List Char, (sample (items (cs ++ ['%']))).length ≤ cs.length ∧
      (sample (items (cs ++ ['%'])) = cs → Plain cs)
  | [] => ⟨Nat.le_refl 0, fun _ => List.forall_mem_nil _⟩
  | c :: cs => by
    obtain ⟨hle, heq⟩ := sample_items cs
    rw [List.cons_append]
    by_cases hrun : c = '%'
    · -- The percent sign is dropped, so that what is left is too short.
      subst hrun
      rw [items_run, sample, List.length_cons]
      refine ⟨by omega, fun h => ?_⟩
      rw [h, List.length_cons] at hle
      omega
    by_cases hone : c = '_'
    · subst hone
      rw [items_one, sample, List.length_cons, List.length_cons]
      refine ⟨by omega, fun h => ?_⟩
      exact absurd (List.cons.inj h).1 (by decide)
    by_cases hback : c = '\\'
    · subst hback
      cases cs with
      | nil => exact ⟨Nat.le_refl 1, fun h => absurd h (by decide)⟩
      | cons d cs =>
        -- The backslash is dropped, and the character after it is no longer looked at.
        obtain ⟨hle, -⟩ := sample_items cs
        rw [List.cons_append, items_backslash, sample]
        simp only [List.length_cons]
        refine ⟨by omega, fun h => ?_⟩
        have hlength := congrArg List.length h
        simp only [List.length_cons] at hlength
        omega
    have hplain : isWild c = false := by
      simp only [isWild, Bool.or_eq_false_iff, beq_eq_false_iff_ne]
      exact ⟨⟨hrun, hone⟩, hback⟩
    rw [items_char hplain, sample, List.length_cons, List.length_cons]
    refine ⟨by omega, fun h => ?_⟩
    exact List.forall_mem_cons.2 ⟨hplain, heq (List.cons.inj h).2⟩

/-- A text between percent signs is looked for as it is exactly when it is plain. -/
theorem like_framed {cs : List Char} :
    (∀ text, like (framed cs) text = occursIn cs text) ↔ Plain cs := by
  constructor
  · intro h
    have hsample : like (framed cs) (sample (items (cs ++ ['%']))) = true := by
      rw [like, framed, items_run]
      exact fits_run_of_fits (fits_sample _)
    rw [h] at hsample
    obtain ⟨before, after, htext⟩ := occursIn_iff.1 hsample
    obtain ⟨hle, hplain⟩ := sample_items cs
    have hlength := congrArg List.length htext
    simp only [List.length_append] at hlength
    -- There is no room around the text, so that it is the sample.
    have hbefore : before = [] := List.eq_nil_of_length_eq_zero (by omega)
    have hafter : after = [] := List.eq_nil_of_length_eq_zero (by omega)
    rw [hbefore, hafter, List.nil_append, List.append_nil] at htext
    exact hplain htext
  · intro h text
    exact Bool.eq_iff_iff.2 (like_framed_of_plain h text)

/-- A percent sign that has lost its meaning is looked for as it is. -/
example :
    like "%1\\%%".toList "at 1% load".toList = true ∧ like "%1\\%%".toList "10".toList = false := by
  decide +kernel

end Inventory.Sql.Like
