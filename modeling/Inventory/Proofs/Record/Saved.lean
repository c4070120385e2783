import Inventory.Command.Run
import Inventory.Proofs.Files.Write
import Inventory.Proofs.Record.Recover

/-!
# Saved batches are read back

The file that a batch is saved in holds the batch: reading it gives the batch again, and saving
what was read gives the same bytes. Main statement: `Batch.saved_reads_back`.
-/

namespace Inventory

open Command (readDocument)
open Files (Disk)
open Json (Number Value floatOf maxLevels)

theorem Batch.holds_writeAt {disk disk' : Disk} {path document : String}
    (h : writeAt disk path document = (disk', .ok ())) : disk'.Holds path document.toUTF8 := by
  unfold writeAt at h
  split at h
  · injection h with _ h
    contradiction
  · next made _ =>
    cases hwrite : made.write path document.toUTF8 with
    | error t =>
      rw [hwrite] at h
      injection h with _ h
      contradiction
    | ok written =>
      rw [hwrite] at h
      obtain rfl : written = disk' := by simpa using h
      exact Disk.holds_write hwrite

/-- Where a batch was saved is what is written for it. -/
theorem Batch.holds_save {b : Batch} {disk : Disk} {given : Option String} {path : String}
    (h : (b.save disk given).result = .ok path) :
    (b.save disk given).disk.Holds path (Batch.schema.write b).toUTF8 := by
  unfold Batch.save at h ⊢
  cases hpath : b.savePath given with
  | error fault =>
    rw [hpath] at h
    contradiction
  | ok p =>
    rw [hpath] at h
    dsimp only at h ⊢
    split at h
    · contradiction
    · next written hwrite =>
      obtain rfl : p = path := by simpa using h
      exact holds_writeAt hwrite

/-- A saved batch is read back from its file. -/
theorem Batch.read_save {b : Batch} (hb : b.Canonical) (hportable : Batch.schema.Portable b)
    {disk : Disk} {given : Option String} {path : String}
    (h : (b.save disk given).result = .ok path) :
    readDocument Batch.schema (b.save disk given).disk path = .ok b := by
  rw [readDocument, Disk.readText_of_holds (holds_save h)]
  simp only [Json.Schema.read_write (Batch.recovers hb) hportable]

/-- Records, answers with records and batches are read back as they are written, a batch also from
the file it was saved in, although what is empty is left out. A batch that was read, saved, read
and saved again is the same file both times, byte for byte. -/
theorem Batch.saved_reads_back :
    (∀ r : Record, r.Canonical → Record.schema.Portable r →
      Record.schema.read (Record.schema.write r) = .ok r) ∧
    (∀ a : Answer.Records, a.Canonical → Answer.Records.schema.Portable a →
      Answer.Records.schema.read (Answer.Records.schema.write a) = .ok a) ∧
    (∀ b : Batch, b.Canonical → Batch.schema.Portable b →
      Batch.schema.read (Batch.schema.write b) = .ok b ∧
      ∀ (disk : Disk) (given : Option String) (path : String),
        (b.save disk given).result = .ok path →
          readDocument Batch.schema (b.save disk given).disk path = .ok b) ∧
    (∀ r : Record, (Record.schema.encode r).names = r.presentNames) ∧
    (∀ b : Batch, (Batch.schema.encode b).names = ["type", "timestamp", "context"]
      ++ (if b.committer.isEmpty then [] else ["committer"]) ++ ["records"]) ∧
    (∀ (text : String) (b : Batch), Batch.schema.read text = .ok b →
      (Batch.schema.encode b).FloatsReadBack →
        ∀ (disk : Disk) (given : Option String) (path : String),
          (b.save disk given).result = .ok path →
          ∃ (bytes : ByteArray) (again : Batch),
            (b.save disk given).disk.Holds path bytes ∧
            readDocument Batch.schema (b.save disk given).disk path = .ok again ∧
            ∀ (disk' : Disk) (given' : Option String) (path' : String),
              (again.save disk' given').result = .ok path' →
                (again.save disk' given').disk.Holds path' bytes) := by
  refine ⟨?record, ?answer, ?batch, Record.names_encode, Batch.names_encode, ?again⟩
  case record =>
    intro r hr hportable
    exact Json.Schema.read_write (Record.recovers hr) hportable
  case answer =>
    intro a ha hportable
    exact Json.Schema.read_write (Answer.Records.recovers ha) hportable
  case batch =>
    intro b hb hportable
    refine ⟨Json.Schema.read_write (Batch.recovers hb) hportable, ?_⟩
    intro disk given path hsave
    exact Batch.read_save hb hportable hsave
  case again =>
    intro text b hread hfloats disk given path hsave
    obtain ⟨hb, hlevels⟩ := Batch.of_read hread
    -- What is read from the file is `b` itself, so it is written as the same text once more.
    refine ⟨_, b, Batch.holds_save hsave, Batch.read_save hb ⟨hlevels, hfloats⟩ hsave, ?_⟩
    intro disk' given' path' hsave'
    exact Batch.holds_save hsave'

/-- One and a half. -/
def Decimal.oneAndHalf : Decimal.Binary64 := ⟨false, 6755399441055744, -52, by decide⟩

/-- A record with every kind of value in its data. -/
def Record.mixed : Record where
  hostname := "web01"
  context := .ofList [("tenant", .text "caf\u00e9 \"x\"\n"), ("region", .null)]
  data := .object [
    ("cpus", .number (.whole 18446744073709551615 (by decide))),
    ("drift", .number (.whole (-9223372036854775808) (by decide))),
    ("load", .number (.float Decimal.oneAndHalf)),
    ("tags", .array [.bool true, .array [], .object []])]

/-- A batch of an empty record and another. -/
def Batch.mixed : Batch where
  recordType := "host"
  records := [{}, .mixed]

/-- An answer with one record. -/
def Answer.Records.mixed : Answer.Records where
  count := 1
  records := .ofList [("17", .mixed)]

theorem Record.mixed_canonical : Record.mixed.Canonical := by
  constructor
  · have hentries : Record.mixed.context.entries
        = [("region", .null), ("tenant", .text "caf\u00e9 \"x\"\n")] := rfl
    simp [hentries, Value.Canonical]
  · refine ⟨?_, ?_⟩
    · unfold Sorted
      decide
    · simp [Value.MembersCanonical, Value.Canonical, Value.ItemsCanonical, Sorted]

theorem Json.Number.readsBack_oneAndHalf : (Number.float Decimal.oneAndHalf).ReadsBack := by
  have hrender : (Number.float Decimal.oneAndHalf).render = ['1', '.', '5'] := by decide
  have hvalue : Decimal.ofDecimal false 15 (-1) = some Decimal.oneAndHalf := by decide +kernel
  rw [ReadsBack, hrender]
  show (floatOf false 15 (-1) >>= fun x => .ok (x, [])) = _
  rw [floatOf, hvalue]
  rfl

theorem Json.Value.floatsReadBack_of_single {v : Value} (h : v.floats = [Decimal.oneAndHalf]) :
    v.FloatsReadBack := by
  intro x hx
  rw [h] at hx
  obtain rfl := List.mem_singleton.1 hx
  exact Number.readsBack_oneAndHalf

theorem Batch.saved_reads_back_mixed :
    Record.schema.read (Record.schema.write .mixed) = .ok .mixed ∧
    Answer.Records.schema.read (Answer.Records.schema.write .mixed) = .ok .mixed ∧
    readDocument Batch.schema (Batch.mixed.save ⟨[], []⟩ none).disk "/sample-data/host.json"
      = .ok .mixed ∧
    ∃ (bytes : ByteArray) (again : Batch),
      (Batch.mixed.save ⟨[], []⟩ none).disk.Holds "/sample-data/host.json" bytes ∧
      (again.save ⟨[], []⟩ (some "data/host.json")).disk.Holds "data/host.json" bytes := by
  obtain ⟨hrecord, hanswer, hbatch, -, -, hagain⟩ := Batch.saved_reads_back
  have hcanonical : Batch.mixed.Canonical := by
    refine ⟨List.forall_mem_nil _, ?_⟩
    simp only [Batch.mixed, List.forall_mem_cons]
    exact ⟨⟨List.forall_mem_nil _, trivial⟩, Record.mixed_canonical, List.forall_mem_nil _⟩
  have hsave : (Batch.mixed.save ⟨[], []⟩ none).result = .ok "/sample-data/host.json" := rfl
  have hfloats : (Batch.schema.encode .mixed).FloatsReadBack :=
    Value.floatsReadBack_of_single (by decide)
  have hread := hbatch .mixed hcanonical ⟨by decide, hfloats⟩
  refine ⟨?_, ?_, hread.2 _ _ _ hsave, ?_⟩
  · exact hrecord .mixed Record.mixed_canonical
      ⟨by decide, Value.floatsReadBack_of_single (by decide)⟩
  · refine hanswer .mixed ?_ ⟨by decide, Value.floatsReadBack_of_single (by decide)⟩
    exact List.forall_mem_cons.2 ⟨Record.mixed_canonical, List.forall_mem_nil _⟩
  · obtain ⟨bytes, again, hbytes, hagain', hsaved⟩ :=
      hagain _ .mixed hread.1 hfloats ⟨[], []⟩ none _ hsave
    have heq : Batch.mixed = again := by
      rw [hread.2 _ _ _ hsave] at hagain'
      injection hagain'
    subst heq
    exact ⟨bytes, .mixed, hbytes, hsaved ⟨[], []⟩ (some "data/host.json") _ rfl⟩

end Inventory
