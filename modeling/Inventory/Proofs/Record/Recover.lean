import Inventory.Answer
import Inventory.Proofs.Json.Yield

/-!
# Reading back records and batches

Records, batches and answers with records are read back as they are written. A part of a record is
left out exactly when it is what the blank record has, so leaving it out loses nothing. The objects
in what is written are maps by name, which is what `Canonical` says of them. What was read is
canonical and fits within the levels of a document, so that it can be written and read again. Main
statements: `Record.recovers`, `Batch.recovers`, `Answer.Records.recovers`, `Batch.of_read` and
`Record.names_encode` (what is left out).
-/

namespace Inventory

open Json (Field Schema Value maxLevels)
open Json.Schema

/-! ## Tables -/

theorem Table.eq_empty {α : Type} {t : Table α} (h : t.isEmpty = true) : t = .empty := by
  obtain ⟨entries, sorted⟩ := t
  obtain rfl : entries = [] := List.isEmpty_iff.1 h
  rfl

theorem Json.Value.eq_null {v : Value} (h : v.isNull = true) : v = .null := by
  cases v <;> first | rfl | contradiction

/-! ## Reading back -/

/-- The objects in the values of a record are maps by name. -/
structure Record.Canonical (r : Record) : Prop where
  context : ∀ e ∈ r.context.entries, e.2.Canonical
  data : r.data.Canonical

/-- The objects in the values of a batch and of its records are maps by name. -/
structure Batch.Canonical (b : Batch) : Prop where
  context : ∀ e ∈ b.context.entries, e.2.Canonical
  records : ∀ r ∈ b.records, r.Canonical

/-- The objects in the values of the records of an answer are maps by name. -/
def Answer.Records.Canonical (a : Answer.Records) : Prop := ∀ e ∈ a.records.entries, e.2.Canonical

/-- Every part of a record that is left out is one that the blank record has. -/
theorem Record.recovers {r : Record} (h : r.Canonical) : Record.schema.Recovers r := by
  -- After each field the record read so far is put in normal form, or it would grow with each.
  refine record_recovers (by decide) ?_
  refine .step (Field.restores_text rfl) ?_
  dsimp only
  refine .step (Field.restores_omittedWhen
    (Field.restores_shownAs (Field.restores_of (text_recovers _) _))
    (fun htest => by rw [String.isEmpty_iff.1 htest]) rfl) ?_
  dsimp only
  refine .step (Field.restores_text rfl) ?_
  dsimp only
  refine .step (Field.restores_text rfl) ?_
  dsimp only
  refine .step (Field.restores_text rfl) ?_
  dsimp only
  refine .step (Field.restores_text rfl) ?_
  dsimp only
  refine .step (Field.restores_omittedWhen
    (Field.restores_of (table_recovers fun e he => value_recovers (h.context e he)) _)
    (fun htest => by rw [Table.eq_empty htest]) rfl) ?_
  dsimp only
  refine .step (Field.restores_omittedWhen (Field.restores_of (value_recovers h.data) _)
    (fun htest => by rw [Json.Value.eq_null htest]) rfl) ?_
  dsimp only
  refine .step (Field.restores_text rfl) ?_
  exact .done

theorem Batch.recovers {b : Batch} (h : b.Canonical) : Batch.schema.Recovers b := by
  refine record_recovers (by decide) ?_
  refine .step (Field.restores_shownAs (Field.restores_of (text_recovers _) _)) ?_
  dsimp only
  refine .step (Field.restores_of (text_recovers _) _) ?_
  dsimp only
  refine .step (Field.restores_of
    (table_recovers fun e he => value_recovers (h.context e he)) _) ?_
  dsimp only
  refine .step (Field.restores_text rfl) ?_
  dsimp only
  refine .step (Field.restores_of
    (list_recovers fun r hr => Record.recovers (h.records r hr)) _) ?_
  exact .done

theorem Answer.Records.recovers {a : Answer.Records} (h : a.Canonical) :
    Answer.Records.schema.Recovers a := by
  refine record_recovers (by decide) ?_
  refine .step (Field.restores_of (int64_recovers _) _) ?_
  dsimp only
  refine .step (Field.restores_of (text_recovers _) _) ?_
  dsimp only
  refine .step (Field.restores_of (table_recovers fun e he => Record.recovers (h e he)) _) ?_
  exact .done

/-! ## What is left out -/

/-- The names of the members of an object. -/
def Json.Value.names : Value → List String
  | .object ms => ms.map (·.1)
  | _ => []

/-- The names in JSON of the parts of a record that are not empty. -/
def Record.presentNames (r : Record) : List String :=
  ([("id", r.id.isEmpty), ("type", r.recordType.isEmpty), ("hostname", r.hostname.isEmpty),
    ("ip", r.ip.isEmpty), ("timestamp", r.timestamp.isEmpty), ("committer", r.committer.isEmpty),
    ("context", r.context.isEmpty), ("data", r.data.isNull), ("hash", r.hash.isEmpty)].filter
      fun part => !part.2).map (·.1)

/-- Exactly the parts that are not empty are written. -/
theorem Record.names_encode (r : Record) : (Record.schema.encode r).names = r.presentNames := by
  refine (names_members _ r).trans ?_
  simp only [List.map_cons, List.map_nil, Field.isNone_omittedWhen, Field.isNone_shownAs,
    Field.isNone_of, Bool.or_false]
  rfl

/-- Everything in a batch is written, but for an empty committer. -/
theorem Batch.names_encode (b : Batch) : (Batch.schema.encode b).names
    = ["type", "timestamp", "context"]
      ++ (if b.committer.isEmpty then [] else ["committer"]) ++ ["records"] := by
  refine (names_members _ b).trans ?_
  simp only [List.map_cons, List.map_nil, Field.isNone_omittedWhen, Field.isNone_shownAs,
    Field.isNone_of, Bool.or_false]
  cases b.committer.isEmpty <;> rfl

/-! ## What was read -/

/-- The values in a record are canonical and within `n` levels of it, not counting its own. -/
structure Record.Within (n : Nat) (r : Record) : Prop where
  context : ∀ e ∈ r.context.entries, e.2.Canonical ∧ e.2.levels + 1 ≤ n
  data : r.data.Canonical ∧ r.data.levels ≤ n

theorem Record.Within.canonical {n : Nat} {r : Record} (h : r.Within n) : r.Canonical where
  context e he := (h.context e he).1
  data := h.data.1

/-- An empty context has a level of its own, but is not written. -/
theorem Record.Within.levels {n : Nat} {r : Record} (h : r.Within n) :
    (Record.schema.encode r).levels ≤ n + 1 := by
  have htext {name : String} {get : Record → String} {set : Record → String → Record}
      {test : Record → Bool} : ((Field.of name .text get set).omittedWhen test).LevelsLe r n :=
    Field.levelsLe_omittedWhen fun _ => Field.levelsLe_text
  have hcontext (htest : r.context.isEmpty = false) :
      ((table value).encode r.context).levels ≤ n := by
    have hentry := fun e he => (h.context e he).2
    have hne : r.context.entries ≠ [] := by simpa [Table.isEmpty] using htest
    obtain ⟨e, he⟩ := List.exists_mem_of_ne_nil _ hne
    have := hentry e he
    exact table_levels (by omega) hentry
  refine Nat.succ_le_succ ((memberLevels_members _ r n).2 ?_)
  simp only [List.forall_mem_cons]
  refine ⟨htext, ?_, htext, htext, htext, htext, ?_, ?_, htext, List.forall_mem_nil _⟩
  · exact Field.levelsLe_omittedWhen fun _ => Field.levelsLe_shownAs Field.levelsLe_text
  · exact Field.levelsLe_omittedWhen fun htest => Field.levelsLe_of (hcontext htest)
  · exact Field.levelsLe_omittedWhen fun _ => Field.levelsLe_of h.data.2

/-- A record that is read is within the levels that could be opened. -/
theorem Record.schema_yields :
    Record.schema.Yields fun n r => ∃ m, n = m + 1 ∧ r.Within m := by
  refine record_yields ?_ fun n => ⟨List.forall_mem_nil _, trivial, Nat.zero_le n⟩
  simp only [List.forall_mem_cons]
  refine ⟨?id, ?type, ?hostname, ?ip, ?timestamp, ?committer, ?context, ?data, ?hash,
    List.forall_mem_nil _⟩
  case type =>
    exact Field.keeps_omittedWhen (Field.keeps_shownAs
      (Field.keeps_any fun n r s h => ⟨h.context, h.data⟩))
  case context =>
    refine Field.keeps_omittedWhen (Field.keeps_of (table_yields value_yields) ?_)
    rintro n r t h ⟨m, rfl, ht⟩
    exact ⟨fun e he => ⟨(ht e he).1, Nat.succ_le_succ (ht e he).2⟩, h.data⟩
  case data =>
    exact Field.keeps_omittedWhen (Field.keeps_of value_yields fun n r v h hv => ⟨h.context, hv⟩)
  all_goals exact Field.keeps_omittedWhen (Field.keeps_any fun n r s h => ⟨h.context, h.data⟩)

/-- The values in a batch are canonical and within `n` levels of it, not counting its own. -/
structure Batch.Within (n : Nat) (b : Batch) : Prop where
  context : ∀ e ∈ b.context.entries, e.2.Canonical ∧ e.2.levels + 1 ≤ n
  records : ∀ r ∈ b.records, ∃ m, n = m + 2 ∧ r.Within m

theorem Batch.Within.canonical {n : Nat} {b : Batch} (h : b.Within n) : b.Canonical where
  context e he := (h.context e he).1
  records r hr := by
    obtain ⟨m, -, hm⟩ := h.records r hr
    exact hm.canonical

/-- The context and the list of records are written even when they are empty. -/
theorem Batch.Within.levels {n : Nat} {b : Batch} (h : b.Within n) (hn : 0 < n) :
    (Batch.schema.encode b).levels ≤ n + 1 := by
  refine Nat.succ_le_succ ((memberLevels_members _ b n).2 ?_)
  simp only [List.forall_mem_cons]
  refine ⟨Field.levelsLe_shownAs Field.levelsLe_text, Field.levelsLe_text, ?context,
    Field.levelsLe_omittedWhen fun _ => Field.levelsLe_text, ?records, List.forall_mem_nil _⟩
  case context => exact Field.levelsLe_of (table_levels hn fun e he => (h.context e he).2)
  case records =>
    refine Field.levelsLe_of (list_levels hn fun r hr => ?_)
    obtain ⟨m, rfl, hm⟩ := h.records r hr
    exact Nat.succ_le_succ hm.levels

theorem Batch.schema_yields : Batch.schema.Yields fun n b => ∃ m, n = m + 1 ∧ b.Within m := by
  refine record_yields ?_ fun n => ⟨List.forall_mem_nil _, List.forall_mem_nil _⟩
  simp only [List.forall_mem_cons]
  refine ⟨?type, ?timestamp, ?context, ?committer, ?records, List.forall_mem_nil _⟩
  case type =>
    exact Field.keeps_shownAs (Field.keeps_any fun n b s h => ⟨h.context, h.records⟩)
  case timestamp => exact Field.keeps_any fun n b s h => ⟨h.context, h.records⟩
  case context =>
    refine Field.keeps_of (table_yields value_yields) ?_
    rintro n b t h ⟨m, rfl, ht⟩
    exact ⟨fun e he => ⟨(ht e he).1, Nat.succ_le_succ (ht e he).2⟩, h.records⟩
  case committer =>
    exact Field.keeps_omittedWhen (Field.keeps_any fun n b s h => ⟨h.context, h.records⟩)
  case records =>
    refine Field.keeps_of (list_yields Record.schema_yields) ?_
    rintro n b rs h ⟨m, rfl, hrs⟩
    refine ⟨h.context, fun r hr => ?_⟩
    obtain ⟨k, rfl, hk⟩ := hrs r hr
    exact ⟨k, rfl, hk⟩

/-- A batch that was read can be read again when it is written. -/
theorem Batch.of_read {text : String} {b : Batch} (h : Batch.schema.read text = .ok b) :
    b.Canonical ∧ (Batch.schema.encode b).levels ≤ maxLevels := by
  obtain ⟨m, hm, hb⟩ := read_yields Batch.schema_yields h
  have hpos : 0 < m := by
    simp only [maxLevels] at hm
    omega
  exact ⟨hb.canonical, hm ▸ hb.levels hpos⟩

end Inventory
