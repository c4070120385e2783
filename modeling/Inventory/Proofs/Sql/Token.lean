import Inventory.Predicate.Joiner
import Inventory.Text.Split

/-!
# Tokens of SQL

A text is cut into tokens: punctuation stands for itself, and the runs of characters between blanks
and punctuation are words, but for AND and OR, which are keywords in any case. Main statements:
`tokens_append` (a text that ends a run is read by itself) and `tokens_of_words` (a text of words
is read as these words).
-/

namespace Inventory.Sql

open Inventory.Predicate (Joiner)

/-! ## Tokens -/

/-- What SQL is made of, as far as conditions go. -/
inductive Token where
  | word (w : List Char)
  | joiner (j : Joiner)
  | opening
  | closing
  /-- A placeholder. -/
  | mark
  | comma
  deriving DecidableEq

namespace Token

/-- Punctuation is a token wherever it stands. -/
def ofPunctuation? : Char → Option Token
  | '(' => some .opening
  | ')' => some .closing
  | '?' => some .mark
  | ',' => some .comma
  | _ => none

/-- The token of a run of characters, if there is any in it. -/
def ofRun (run : List Char) : List Token :=
  if run = [] then []
  else
    match Joiner.ofWord? run with
    | some j => [.joiner j]
    | none => [.word run]

end Token

/-- The tokens of a text, given the run of characters that comes right before it. -/
def tokensAfter (run : List Char) : List Char → List Token
  | [] => Token.ofRun run
  | c :: rest =>
    if c = ' ' then Token.ofRun run ++ tokensAfter [] rest
    else
      match Token.ofPunctuation? c with
      | some t => Token.ofRun run ++ t :: tokensAfter [] rest
      | none => tokensAfter (run ++ [c]) rest

/-- The tokens of a text. -/
def tokens (s : String) : List Token := tokensAfter [] s.toList

/-- The character ends a run: a blank or punctuation. -/
def EndsRun (c : Char) : Prop := c = ' ' ∨ (Token.ofPunctuation? c).isSome

/-- Nothing that follows the text changes its tokens. -/
def Complete (s : String) : Prop := s = "" ∨ ∃ cs c, s.toList = cs ++ [c] ∧ EndsRun c

/-- What comes after the end of a run is read by itself. -/
theorem tokensAfter_end {c : Char} (hc : EndsRun c) (rest run : List Char) :
    tokensAfter run (c :: rest)
      = Token.ofRun run ++ (tokensAfter [] [c] ++ tokensAfter [] rest) := by
  simp only [tokensAfter]
  by_cases hb : c = ' '
  · rw [if_pos hb, if_pos hb]
    rfl
  · rw [if_neg hb, if_neg hb]
    obtain ⟨t, ht⟩ := Option.isSome_iff_exists.1 (hc.resolve_left hb)
    rw [ht]
    rfl

/-- A character that ends a run parts the tokens before it from its own and those after it. -/
theorem tokensAfter_append {c : Char} (hc : EndsRun c) (rest : List Char) :
    ∀ (cs run : List Char),
      tokensAfter run (cs ++ c :: rest)
        = tokensAfter run cs ++ (tokensAfter [] [c] ++ tokensAfter [] rest)
  | [], run => tokensAfter_end hc rest run
  | d :: cs, run => by
    have ih := tokensAfter_append hc rest cs
    rw [List.cons_append, tokensAfter, tokensAfter]
    by_cases hb : d = ' '
    · rw [if_pos hb, if_pos hb, ih, List.append_assoc]
    · rw [if_neg hb, if_neg hb]
      split
      · rw [ih, List.append_assoc, List.cons_append]
      · exact ih (run ++ [d])

/-- A text that ends a run is read by itself. -/
theorem tokens_append {s : String} (h : Complete s) (t : String) :
    tokens (s ++ t) = tokens s ++ tokens t := by
  rcases h with rfl | ⟨cs, c, hs, hc⟩
  · rw [String.empty_append]
    rfl
  · have hnil : tokensAfter [] [] = [] := rfl
    rw [tokens, tokens, String.toList_append, hs, List.append_assoc, List.singleton_append,
      tokensAfter_append hc, tokensAfter_append hc, hnil, List.append_nil, List.append_assoc]
    rfl

/-- A blank at the end adds nothing. -/
theorem tokens_append_space (s : String) : tokens (s ++ " ") = tokens s := by
  rw [tokens, String.toList_append]
  exact (tokensAfter_append (.inl rfl) [] s.toList []).trans (List.append_nil _)

theorem complete_space (s : String) : Complete (s ++ " ") :=
  .inr ⟨s.toList, ' ', by simp, .inl rfl⟩

/-! ## Words -/

/-- The words of a text, as single blanks part them. -/
def words (s : String) : List (List Char) := Text.split (· == ' ') s.toList

/-- A word is not empty, is free of punctuation and spells neither AND nor OR. -/
def IsWord (w : List Char) : Prop :=
  w ≠ [] ∧ (∀ c ∈ w, c ∉ ['(', ')', '?', ',']) ∧
    Text.sameLetters w ['a', 'n', 'd'] = false ∧ Text.sameLetters w ['o', 'r'] = false

-- The characters of the word are tested, not all the characters there are.
instance (w : List Char) : Decidable (IsWord w) :=
  @instDecidableAnd _ _ inferInstance (@instDecidableAnd _ _ (List.decidableBAll _ w) inferInstance)

/-- The text is one word or several, with single blanks between them. -/
def Wordy (s : String) : Prop := ∀ w ∈ words s, IsWord w

instance (s : String) : Decidable (Wordy s) := inferInstanceAs (Decidable (∀ _ ∈ _, _))

theorem words_ne_nil (s : String) : words s ≠ [] := Text.split_ne_nil _ _

/-- The words with single blanks between them make up the text. -/
theorem intercalate_words (s : String) : " ".intercalate ((words s).map String.ofList) = s := by
  rw [← String.toList_inj, String.toList_intercalate, List.map_map]
  have hid : String.toList ∘ String.ofList = id := funext fun cs => String.toList_ofList
  rw [hid, List.map_id]
  exact Text.intercalate_split ' ' s.toList

theorem ofPunctuation?_eq_none {c : Char} (h : c ∉ ['(', ')', '?', ',']) :
    Token.ofPunctuation? c = none := by
  unfold Token.ofPunctuation?
  split
  all_goals first | rfl | simp at h

theorem ofRun_word {w : List Char} (h : IsWord w) : Token.ofRun w = [.word w] := by
  obtain ⟨hne, _, hand, hor⟩ := h
  have hj : Joiner.ofWord? w = none := by simp [Joiner.ofWord?, hne, hand, hor]
  rw [Token.ofRun, if_neg hne, hj]

/-- Without punctuation a text is read as the runs that blanks part. -/
theorem tokensAfter_split :
    ∀ {cs : List Char} {run w : List Char} {ws : List (List Char)},
      (∀ c ∈ cs, Token.ofPunctuation? c = none) → Text.split (· == ' ') cs = w :: ws →
        tokensAfter run cs = Token.ofRun (run ++ w) ++ ws.flatMap Token.ofRun
  | [], run, w, ws, _, hs => by
    obtain ⟨rfl, rfl⟩ := List.cons.inj hs
    simp [tokensAfter]
  | c :: cs, run, w, ws, hp, hs => by
    -- A character moves from the first part to the run before it, a blank ends both.
    have hp' : ∀ d ∈ cs, Token.ofPunctuation? d = none := fun d hd => hp d (by simp [hd])
    obtain ⟨v, vs, hv⟩ := List.exists_cons_of_ne_nil (Text.split_ne_nil (· == ' ') cs)
    rw [Text.split, hv] at hs
    rw [tokensAfter]
    by_cases hb : c = ' '
    · rw [if_pos (beq_iff_eq.2 hb)] at hs
      obtain ⟨rfl, rfl⟩ := List.cons.inj hs
      rw [if_pos hb, tokensAfter_split hp' hv]
      simp
    · rw [if_neg (by simpa using hb)] at hs
      obtain ⟨rfl, rfl⟩ := List.cons.inj hs
      rw [if_neg hb, hp c (by simp)]
      simp [tokensAfter_split hp' hv]

/-- A text whose parts between blanks are free of punctuation is so as a whole. -/
theorem noPunctuation_of_split :
    ∀ {cs : List Char}, (∀ w ∈ Text.split (· == ' ') cs, ∀ c ∈ w, c ∉ ['(', ')', '?', ',']) →
      ∀ c ∈ cs, Token.ofPunctuation? c = none
  | [], _, c, hc => by simp at hc
  | d :: cs, h, c, hc => by
    obtain ⟨v, vs, hv⟩ := List.exists_cons_of_ne_nil (Text.split_ne_nil (· == ' ') cs)
    rw [Text.split, hv] at h
    by_cases hb : d = ' '
    · rw [if_pos (beq_iff_eq.2 hb)] at h
      rcases List.mem_cons.1 hc with rfl | hc
      · rw [hb]; rfl
      · exact noPunctuation_of_split (fun w hw => h w (List.mem_cons_of_mem _ (hv ▸ hw))) c hc
    · rw [if_neg (by simpa using hb)] at h
      have hd := h (d :: v) (by simp)
      rcases List.mem_cons.1 hc with rfl | hc
      · exact ofPunctuation?_eq_none (hd c (by simp))
      · refine noPunctuation_of_split (fun w hw => ?_) c hc
        rw [hv] at hw
        rcases List.mem_cons.1 hw with rfl | hw
        · exact fun e he => hd e (by simp [he])
        · exact h w (by simp [hw])

/-- A text of words is read as these words. -/
theorem tokens_of_words {s : String} (h : Wordy s) : tokens s = (words s).map .word := by
  obtain ⟨w, ws, hw⟩ := List.exists_cons_of_ne_nil (words_ne_nil s)
  have hplain := noPunctuation_of_split fun w hw => (h w hw).2.1
  have hrun : (words s).map Token.ofRun = (words s).map fun v => [.word v] :=
    List.map_congr_left fun v hv => ofRun_word (h v hv)
  rw [tokens, tokensAfter_split hplain hw, List.nil_append, ← List.flatMap_cons, ← hw,
    List.flatMap_def, hrun, ← List.flatMap_def, List.map_eq_flatMap]

end Inventory.Sql
