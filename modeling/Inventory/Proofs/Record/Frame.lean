import Inventory.Batch.Save
import Inventory.Proofs.Files.Grow

/-!
# What saving leaves alone

Saving a batch at a path changes one file and puts folders on the way to it, and when it fails it
changes no file at all: folders are made first, and the file is written last, in one step. A path
that is refused is found out before anything else happens. Main statements: `writeAt_cases` (the
two ways that writing can end) and `save_frame`.
-/

namespace Inventory.Batch

open Files (Disk Entry Path Place Trouble)
open Files.Disk (Grown OnWay)

variable {b : Batch} {disk disk' : Disk} {path document : String}

/-! ## Writing -/

/-- Writing fails with some folders more, or a file is put last of all, where the path leads. -/
theorem writeAt_cases (disk : Disk) (path document : String) :
    (∃ t, writeAt disk path document = ((disk.makeParent path).1, .error t)) ∨
    ∃ place, (disk.makeParent path).1.target path = .ok place ∧
      writeAt disk path document
        = ((disk.makeParent path).1.put place (.file document.toUTF8), .ok ()) := by
  unfold writeAt
  split
  · next made t hmade => exact .inl ⟨t, by rw [hmade]⟩
  · next made hmade =>
    rw [hmade]
    cases hwrite : made.write path document.toUTF8 with
    | error t => exact .inl ⟨t, rfl⟩
    | ok written =>
      obtain ⟨place, htarget, rfl⟩ := Disk.write_eq_ok.1 hwrite
      exact .inr ⟨place, htarget, rfl⟩

/-- Around the file that is written nothing changes, but for folders on the way to it. -/
theorem place_of_written {place other : Place}
    (htarget : (disk.makeParent path).1.target path = .ok place) (hne : other ≠ place)
    (bytes : ByteArray) :
    let written := (disk.makeParent path).1.put place (.file bytes)
    written.get? other = disk.get? other ∨
      disk.get? other = none ∧ written.get? other = some .folder ∧ written.OnWay path other := by
  intro written
  obtain ⟨_, _, _, _, _, _, _, _, _, hplace, _⟩ := Disk.target_eq_ok htarget
  have hkept : (disk.makeParent path).1.FoldersKept written :=
    Disk.foldersKept_put hplace (.file bytes)
  have hother : written.get? other = (disk.makeParent path).1.get? other :=
    Disk.get?_put_of_ne _ hne _
  rcases (Disk.grown_makeParent disk path).place other with hsame | ⟨hnone, hfolder, hway⟩
  · exact .inl (hother.trans hsame)
  · exact .inr ⟨hnone, hother.trans hfolder, hkept.passes hfolder hway⟩

/-! ## Saving -/

/-- Saving a batch at a path writes the batch there and leaves all else as it is, but for folders
on the way. When it fails, no file is touched, and when the path is refused, nothing is. That a
batch was saved is reported exactly when it was. -/
theorem save_frame (b : Batch) (disk : Disk) (path : String) :
    let s := b.save disk (some path)
    (∀ returned, s.result = .ok returned → returned = path ∧
      ∃ place, s.disk.resolve path = .ok (place, .file (Batch.schema.write b).toUTF8) ∧
        ∀ other, other ≠ place → s.disk.get? other = disk.get? other ∨
          disk.get? other = none ∧ s.disk.get? other = some .folder ∧ s.disk.OnWay path other) ∧
    (∀ fault, s.result = .error fault → ∀ other bytes,
      s.disk.get? other = some (.file bytes) ↔ disk.get? other = some (.file bytes)) ∧
    (∀ refused, s.result = .error (.savePath refused) → s.disk = disk ∧ s.events = []) ∧
    ((∃ event ∈ s.events, event.message = "saved records") ↔
      ∃ returned, s.result = .ok returned) := by
  intro s
  have hs : s = b.save disk (some path) := rfl
  by_cases haccepted : acceptsPath path = true
  case neg =>
    rw [save_of_refused b disk (Bool.eq_false_iff.2 haccepted)] at hs
    simp [hs]
  have hpath : b.savePath (some path) = .ok path := if_pos haccepted
  rcases writeAt_cases disk path (Batch.schema.write b) with ⟨t, hwrite⟩ | ⟨place, htarget, hwrite⟩
  · simp only [save, hpath, hwrite] at hs
    refine ⟨by simp [hs], ?_, by simp [hs], by simp [hs, Event.message]⟩
    intro fault _ other bytes
    rw [hs]
    exact (Disk.grown_makeParent disk path).file_iff other bytes
  · simp only [save, hpath, hwrite] at hs
    refine ⟨?_, by simp [hs], by simp [hs], by simp [hs, Event.message]⟩
    intro returned hreturned
    have hreturned : path = returned := by simpa [hs] using hreturned
    refine ⟨hreturned.symm, place, ?_, ?_⟩
    · rw [hs]
      exact Disk.resolve_put htarget _
    · intro other hne
      rw [hs]
      exact place_of_written htarget hne _

/-- A disk with a file at its root and another in a folder. -/
def twoFiles : Disk where
  entries := [(["keep.json"], .file "kept".toUTF8), (["out"], .folder),
    (["out", "b.json"], .file "old".toUTF8)]
  home := []

theorem save_frame_twoFiles :
    (∃ place, (save {} twoFiles (some "new/../out/b.json")).disk.resolve "new/../out/b.json"
        = .ok (place, .file (Batch.schema.write {}).toUTF8) ∧
      ∀ other, other ≠ place →
        (save {} twoFiles (some "new/../out/b.json")).disk.get? other = twoFiles.get? other ∨
        twoFiles.get? other = none ∧
          (save {} twoFiles (some "new/../out/b.json")).disk.get? other = some .folder ∧
          (save {} twoFiles (some "new/../out/b.json")).disk.OnWay "new/../out/b.json" other) ∧
    (∀ other bytes, (save {} twoFiles (some "keep.json/b.json")).disk.get? other
        = some (.file bytes) ↔ twoFiles.get? other = some (.file bytes)) ∧
    (save {} twoFiles (some "out/b.txt")).disk = twoFiles ∧
    ∃ event ∈ (save {} twoFiles (some "new/../out/b.json")).events,
      event.message = "saved records" := by
  have hsaved : (save {} twoFiles (some "new/../out/b.json")).result
      = .ok "new/../out/b.json" := rfl
  have hfailed : (save {} twoFiles (some "keep.json/b.json")).result
      = .error (.file .notFolder) := rfl
  have hrefused : (save {} twoFiles (some "out/b.txt")).result
      = .error (.savePath "out/b.txt") := rfl
  have hover := save_frame {} twoFiles "new/../out/b.json"
  refine ⟨(hover.1 _ hsaved).2, (save_frame {} twoFiles "keep.json/b.json").2.1 _ hfailed,
    ((save_frame {} twoFiles "out/b.txt").2.2.1 _ hrefused).1, hover.2.2.2.2 ⟨_, hsaved⟩⟩

end Inventory.Batch
