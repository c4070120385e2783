import Inventory.Proofs.Command.Task
import Inventory.Proofs.Predicate.Writing

/-!
# Pages behind conditions

A page is put right behind a condition, with nothing in between. No keyword of either runs into what
stands before it, and whoever reads the text from LIMIT on gets the numbers of the page. Main
statements: `Page.ofTokens?_tokens_sql` and `condition_spaced`.
-/

namespace Inventory.Predicate

open Command (word? word?_digits)
open Sql (IsWord Token tokens tokens_append)

/-! ## Digits as words -/

/-- A word that begins with neither form of a letter is none that begins with the letter. -/
theorem not_sameLetters {c small capital : Char} (hcapital : capital.isUpper = true)
    (hsmall : capital.toNat + 32 = small.toNat) (hself : small.toLower = small)
    (hc : c ∉ [small, capital]) (cs rest : List Char) :
    Text.sameLetters (c :: cs) (small :: rest) = false := by
  rw [Bool.eq_false_iff, Ne, Text.sameLetters_iff]
  intro h
  have hlower : c.toLower = small := (List.cons.inj h).1.trans hself
  rcases (Text.toLower_eq_iff hcapital hsmall).1 hlower with rfl | rfl
  · exact hc (List.mem_cons_self ..)
  · exact hc (List.mem_cons_of_mem _ (List.mem_singleton_self _))

namespace Page

/-- There are digits, and but for the sign there is nothing else. -/
theorem mem_digits (n : Int64) :
    (digits n).toList ≠ [] ∧ ∀ c ∈ (digits n).toList, c = '-' ∨ c.isDigit = true := by
  have hdigit : ∀ c ∈ Nat.toDigits 10 n.toInt.natAbs, c.isDigit = true := fun c hc =>
    Nat.isDigit_of_mem_toDigits (by decide) (by decide) hc
  rw [digits, String.toList_ofList, Json.Number.renderWhole]
  split
  · refine ⟨List.cons_ne_nil _ _, fun c hc => ?_⟩
    rcases List.mem_cons.1 hc with rfl | hc
    · exact .inl rfl
    · exact .inr (hdigit c hc)
  · exact ⟨Nat.toDigits_ne_nil, fun c hc => .inr (hdigit c hc)⟩

/-- The digits of a word are a word of SQL. -/
theorem isWord_digits (n : Int64) : IsWord (digits n).toList := by
  obtain ⟨hne, hmem⟩ := mem_digits n
  have hnone {others : List Char} (h : others.all (fun e => e != '-' && !e.isDigit) = true) :
      ∀ d ∈ (digits n).toList, d ∉ others := by
    intro d hd hother
    have hd' := List.all_eq_true.1 h d hother
    rcases hmem d hd with rfl | hdigit
    · exact absurd hd' (by decide)
    · rw [hdigit, Bool.not_true, Bool.and_false] at hd'
      exact absurd hd' Bool.false_ne_true
  refine ⟨hne, hnone rfl, ?_⟩
  -- Neither AND nor OR begins with a digit or a sign.
  obtain ⟨c, cs, hcs⟩ := List.exists_cons_of_ne_nil hne
  have hc : c ∈ (digits n).toList := by simp [hcs]
  rw [hcs]
  constructor
  · have ha : c ∉ ['a', 'A'] := hnone rfl c hc
    exact not_sameLetters rfl rfl rfl ha cs _
  · have ho : c ∉ ['o', 'O'] := hnone rfl c hc
    exact not_sameLetters rfl rfl rfl ho cs _

theorem tokens_digits (n : Int64) : tokens (digits n) = [.word (digits n).toList] := by
  have hblank : ∀ c ∈ (digits n).toList, (c == ' ') = false := by
    intro c hc
    rcases (mem_digits n).2 c hc with rfl | hdigit
    · rfl
    · refine beq_eq_false_iff_ne.2 ?_
      rintro rfl
      exact absurd hdigit (by decide)
  have hwords : Sql.words (digits n) = [(digits n).toList] := Text.split_of_none hblank
  rw [Sql.tokens_of_words, hwords]
  · rfl
  · intro w hw
    rw [hwords, List.mem_singleton] at hw
    rw [hw]
    exact isWord_digits n

/-! ## Pages read back -/

/-- The number that a keyword states, and what follows it. -/
def stated? (keyword : String) : List Token → Option (Int64 × List Token)
  | .word w :: .word number :: rest =>
    if w = keyword.toList then (word? (String.ofList number)).map (·, rest) else none
  | _ => none

/-- The limit that tokens state, and the offset if they state one. -/
def ofTokens? (ts : List Token) : Option (Int64 × Option Int64) :=
  match stated? "LIMIT" ts with
  | none => none
  | some (limit, []) => some (limit, none)
  | some (limit, rest) =>
    match stated? "OFFSET" rest with
    | some (offset, []) => some (limit, some offset)
    | _ => none

theorem stated?_digits (keyword : String) (n : Int64) (rest : List Token) :
    stated? keyword (.word keyword.toList :: .word (digits n).toList :: rest) = some (n, rest) := by
  rw [stated?, if_pos rfl, String.ofList_toList, word?_digits]
  rfl

theorem tokens_stating {keyword : String} (h : tokens keyword = [.word keyword.toList])
    (n : Int64) :
    tokens (keyword ++ " " ++ digits n) = [.word keyword.toList, .word (digits n).toList] := by
  rw [tokens_append (Sql.complete_space keyword), Sql.tokens_append_space, tokens_digits, h]
  rfl

/-- The tokens of a page: LIMIT with its number, and OFFSET with its number if that is not zero. -/
theorem tokens_sql {page : Page} (h : page.limit ≠ 0) :
    tokens page.sql = .word "LIMIT".toList :: .word (digits page.limit).toList ::
      if page.offset = 0 then []
      else [.word "OFFSET".toList, .word (digits page.offset).toList] := by
  have hlimit : tokens ("LIMIT " ++ digits page.limit) = _ :=
    tokens_stating (rfl : tokens "LIMIT" = [.word "LIMIT".toList]) page.limit
  have hoffset : tokens ("OFFSET " ++ digits page.offset) = _ :=
    tokens_stating (rfl : tokens "OFFSET" = [.word "OFFSET".toList]) page.offset
  rw [sql, if_neg h]
  split
  · exact hlimit
  · have hparts : "LIMIT " ++ digits page.limit ++ " OFFSET " ++ digits page.offset
        = "LIMIT " ++ digits page.limit ++ " " ++ ("OFFSET " ++ digits page.offset) := by
      have hblank : " OFFSET " = " " ++ "OFFSET " := rfl
      simp only [hblank, String.append_assoc]
    rw [hparts, tokens_append (Sql.complete_space _), Sql.tokens_append_space, hlimit, hoffset]
    rfl

/-- Who reads the text of a page gets its limit, and its offset if that is not zero. -/
theorem ofTokens?_tokens_sql {page : Page} (h : page.limit ≠ 0) :
    ofTokens? (tokens page.sql)
      = some (page.limit, if page.offset = 0 then none else some page.offset) := by
  rw [tokens_sql h, ofTokens?, stated?_digits]
  by_cases hoffset : page.offset = 0
  · rw [if_pos hoffset, if_pos hoffset]
  · rw [if_neg hoffset, if_neg hoffset]
    simp only [stated?_digits]

theorem sql_eq_limit {page : Page} (h : page.limit ≠ 0) :
    ∃ rest, page.sql = "LIMIT " ++ rest := by
  rw [sql, if_neg h]
  split
  · exact ⟨_, rfl⟩
  · simp only [String.append_assoc]
    exact ⟨_, rfl⟩

end Page

/-! ## Keywords stand apart -/

/-- Wherever a joiner is put down, also in a text that is given up later, what stands before it ends
in a blank or in a closing parenthesis, so the joiner is read by itself. The text of a condition
ends in one as well unless it is empty, so a page behind it is read by itself, and the text from
LIMIT on gives the numbers of the page. -/
theorem condition_spaced (f : Filter) :
    run f.steps {} = f.condition ∧
    (∀ c step j, f.Reaches c step → step.Joins j →
      step.perform c = .ok (c.put (.joiner j)) ∧ Spaced c.sql ∧
        tokens (c.put (.joiner j)).sql = tokens c.sql ++ [.joiner j]) ∧
    ∀ c, f.condition = .ok c → c.sql ≠ "" →
      Spaced c.sql ∧ ∀ page : Page, page.limit ≠ 0 →
        (∃ rest, page.sql = "LIMIT " ++ rest) ∧
        tokens (c.sql ++ page.sql) = tokens c.sql ++ tokens page.sql ∧
        Page.ofTokens? (tokens page.sql)
          = some (page.limit, if page.offset = 0 then none else some page.offset) := by
  refine ⟨f.run_steps, fun c step j hreached hj => ?_, fun c hc hne => ?_⟩
  · have hspaced := hreached.spaced hj
    have hjoiner : tokens (Piece.joiner j).sql = [.joiner j] := by cases j <;> rfl
    refine ⟨hreached.perform hj, hspaced, ?_⟩
    rw [Condition.put, tokens_append hspaced.complete, hjoiner]
  · have hspaced := (Filter.spaced_condition hc).resolve_left hne
    refine ⟨hspaced, fun page hpage => ⟨Page.sql_eq_limit hpage, ?_, ?_⟩⟩
    · exact tokens_append hspaced.complete page.sql
    · exact Page.ofTokens?_tokens_sql hpage

/-- A clause with two keys and two values. -/
def twoKeys : Clause := { keys := ["a", "b"], operator := "IN", values := ["1", "2"] }

/-- A filter whose last clause has no value. -/
def brokenFilter : Filter where
  groups := [⟨[]⟩, ⟨[twoKeys, .compare "c" "=" "3", { joiner := .or, keys := ["d"] }]⟩]

/-- The joiner behind the two keys is put down although the filter is refused later. Where the two
keys come last, LIMIT stands right behind their parenthesis. -/
theorem condition_spaced_twoKeys :
    brokenFilter.condition = .error ⟨.incomplete, 1, 2⟩ ∧
    (∃ c step, brokenFilter.Reaches c step ∧ step.Joins .and ∧
      c.sql = "WHERE AND ( ( a IN (?,?) OR b IN (?,?) )" ∧ Spaced c.sql) ∧
    ∃ c, Filter.condition ⟨.or, [⟨[]⟩, .ofClause twoKeys]⟩ = .ok c ∧
      c.sql ++ Page.sql ⟨-9223372036854775808, -1⟩
        = "WHERE OR ( a IN (?,?) OR b IN (?,?) )LIMIT -9223372036854775808 OFFSET -1" ∧
      Page.ofTokens? (tokens (Page.sql ⟨-9223372036854775808, -1⟩))
        = some (-9223372036854775808, some (-1)) := by
  refine ⟨Filter.condition_of_flaw (by decide), ?_, ?_⟩
  · have hreached : brokenFilter.Reaches _ (.join .and) :=
      ⟨brokenFilter.steps.take 14, brokenFilter.steps.drop 15, rfl, rfl⟩
    obtain ⟨-, hspaced, -⟩ := (condition_spaced brokenFilter).2.1 _ _ .and hreached (.inr rfl)
    exact ⟨_, _, hreached, .inr rfl, by decide +kernel, hspaced⟩
  · have h : Filter.condition ⟨.or, [⟨[]⟩, .ofClause twoKeys]⟩ = .ok _ :=
      Filter.condition_of_sound (by decide)
    obtain ⟨-, hpages⟩ := (condition_spaced _).2.2 _ h (by decide +kernel)
    obtain ⟨-, -, hread⟩ := hpages ⟨-9223372036854775808, -1⟩ (by decide)
    exact ⟨_, h, by decide +kernel, hread⟩

end Inventory.Predicate
