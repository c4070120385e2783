import Inventory.Files.Disk
import Inventory.Proofs.Except

/-!
# Reading back what was written

A file that was written at a path is found under that path. Writing puts something where no folder
is, and all that a path goes through on its way to a folder is folders, so the way to the file is
the same before and after. Main statements: `FoldersKept.follow`, `resolve_put` and
`readText_eq_ok`.
-/

namespace Inventory.Files.Disk

variable {disk : Disk}

/-- The path leads to a file of these bytes. -/
def Holds (disk : Disk) (path : String) (bytes : ByteArray) : Prop :=
  ∃ place, disk.resolve path = .ok (place, .file bytes)

/-! ## One step -/

/-- The place that one step leads to. -/
def move (disk : Disk) (place : Place) (step : Step) : Except Trouble Place := do
  disk.checkFolder place
  match step with
  | .up => .ok place.dropLast
  | .name n =>
    match ← disk.lookUp place n with
    | none => .error .missing
    | some _ => .ok (place ++ [n])

theorem follow_cons (place : Place) (step : Step) (steps : List Step) :
    disk.follow place (step :: steps)
      = disk.move place step >>= fun next => disk.follow next steps := by
  cases step with
  | up =>
    rw [follow, move]
    cases disk.checkFolder place <;> rfl
  | name n =>
    rw [follow, move]
    cases disk.checkFolder place with
    | error t => rfl
    | ok _ =>
      simp only [bind, Except.bind]
      cases disk.lookUp place n with
      | error t => rfl
      | ok e => cases e <;> rfl

theorem follow_append (before after : List Step) (place : Place) :
    disk.follow place (before ++ after)
      = disk.follow place before >>= fun next => disk.follow next after := by
  induction before generalizing place with
  | nil => rfl
  | cons step before ih =>
    rw [List.cons_append, follow_cons, follow_cons, bind_assoc]
    exact bind_congr fun next => ih next

theorem checkFolder_eq_ok {place : Place} {u : Unit} :
    disk.checkFolder place = .ok u ↔ disk.get? place = some .folder := by
  unfold checkFolder
  split <;> simp [*]

theorem lookUp_eq_ok {place : Place} {n : String} {e : Option Entry} :
    disk.lookUp place n = .ok e
      ↔ ¬ maxName < n.utf8ByteSize ∧ disk.get? (place ++ [n]) = e := by
  unfold lookUp
  split <;> simp [*]

theorem move_up_eq_ok {place next : Place} :
    disk.move place .up = .ok next ↔ disk.get? place = some .folder ∧ place.dropLast = next := by
  rw [move, bind_eq_ok]
  simp [checkFolder_eq_ok]

/-- A name leads from a folder to something that is there. -/
theorem move_name_eq_ok {place next : Place} {n : String} :
    disk.move place (.name n) = .ok next ↔ disk.get? place = some .folder ∧
      ¬ maxName < n.utf8ByteSize ∧ (∃ e, disk.get? next = some e) ∧ place ++ [n] = next := by
  rw [move, bind_eq_ok]
  simp only [checkFolder_eq_ok]
  constructor
  · rintro ⟨_, hplace, h⟩
    obtain ⟨found, hfound, h⟩ := bind_eq_ok.1 h
    obtain ⟨hname, hfound⟩ := lookUp_eq_ok.1 hfound
    cases found with
    | none => contradiction
    | some e =>
      injection h with h
      subst h
      exact ⟨hplace, hname, ⟨e, hfound⟩, rfl⟩
  · rintro ⟨hplace, hname, ⟨e, he⟩, rfl⟩
    exact ⟨(), hplace, ok_bind (lookUp_eq_ok.2 ⟨hname, he⟩) _⟩

/-- A step starts in a folder. -/
theorem folder_of_move {place next : Place} {step : Step} (h : disk.move place step = .ok next) :
    disk.get? place = some .folder := by
  cases step with
  | up => exact (move_up_eq_ok.1 h).1
  | name n => exact (move_name_eq_ok.1 h).1

/-! ## The way to a folder -/

/-- A way that ends in a folder begins in one. -/
theorem folder_of_follow {place found : Place} {steps : List Step}
    (h : disk.follow place steps = .ok found) (hfound : disk.get? found = some .folder) :
    disk.get? place = some .folder := by
  cases steps with
  | nil =>
    injection h with h
    exact h ▸ hfound
  | cons step steps =>
    rw [follow_cons] at h
    obtain ⟨next, hnext, -⟩ := bind_eq_ok.1 h
    exact folder_of_move hnext

/-- Every folder of the first disk is one of the second. -/
def FoldersKept (disk disk' : Disk) : Prop :=
  ∀ place, disk.get? place = some .folder → disk'.get? place = some .folder

/-- Folders stay when something is put where no folder is. -/
theorem foldersKept_put {target : Place} (htarget : disk.get? target ≠ some .folder)
    (entry : Entry) : disk.FoldersKept (disk.put target entry) := by
  intro place h
  have hne : place ≠ target := fun heq => htarget (heq ▸ h)
  rw [get?_put_of_ne disk hne, h]

section
variable {disk' : Disk} (hkept : disk.FoldersKept disk')
include hkept

theorem FoldersKept.move {place next : Place} {step : Step} (h : disk.move place step = .ok next)
    (hnext : disk.get? next = some .folder) : disk'.move place step = .ok next := by
  cases step with
  | up =>
    obtain ⟨hplace, hup⟩ := move_up_eq_ok.1 h
    exact move_up_eq_ok.2 ⟨hkept _ hplace, hup⟩
  | name n =>
    obtain ⟨hplace, hname, -, hstep⟩ := move_name_eq_ok.1 h
    exact move_name_eq_ok.2 ⟨hkept _ hplace, hname, ⟨_, hkept _ hnext⟩, hstep⟩

/-- The way to a folder is the same where all folders are kept. -/
theorem FoldersKept.follow {found : Place} (hfound : disk.get? found = some .folder)
    (steps : List Step) : ∀ {place : Place}, disk.follow place steps = .ok found →
      disk'.follow place steps = .ok found := by
  induction steps with
  | nil => intro place h; exact h
  | cons step steps ih =>
    intro place h
    rw [follow_cons] at h ⊢
    obtain ⟨next, hmove, hrest⟩ := bind_eq_ok.1 h
    -- The way goes on to a folder, so this step led to one as well.
    have hnext := folder_of_follow hrest hfound
    exact bind_eq_ok.2 ⟨next, hkept.move hmove hnext, ih hrest⟩

end

/-! ## Writing -/

/-- A file is written under a name in a folder, where no folder is. -/
theorem target_eq_ok {path : String} {place : Place} (h : disk.target path = .ok place) :
    ∃ before n folder, checkText path = .ok () ∧ (Path.parse path).steps = before ++ [.name n] ∧
      (Path.parse path).tail = .nothing ∧
      disk.follow (disk.start (Path.parse path)) before = .ok folder ∧
      disk.get? folder = some .folder ∧ ¬ maxName < n.utf8ByteSize ∧
      disk.get? place ≠ some .folder ∧ folder ++ [n] = place := by
  obtain ⟨_, htext, h⟩ := bind_eq_ok.1 h
  dsimp only at h
  split at h
  · next n hlast htail =>
    obtain ⟨folder, hfollow, h⟩ := bind_eq_ok.1 h
    obtain ⟨_, hfolder, h⟩ := bind_eq_ok.1 h
    obtain ⟨found, hfound, h⟩ := bind_eq_ok.1 h
    obtain ⟨hname, hfound⟩ := lookUp_eq_ok.1 hfound
    obtain ⟨before, hsteps⟩ := List.getLast?_eq_some_iff.1 hlast
    rw [hsteps, List.dropLast_concat] at hfollow
    have hplace : found ≠ some .folder ∧ folder ++ [n] = place := by
      match found with
      | some .folder => contradiction
      | none => simpa using h
      | some (.file _) => simpa using h
    refine ⟨before, n, folder, htext, hsteps, htail, hfollow, checkFolder_eq_ok.1 hfolder, hname,
      ?_, hplace.2⟩
    rw [← hplace.2, hfound]
    exact hplace.1
  · obtain ⟨folder, -, h⟩ := bind_eq_ok.1 h
    obtain ⟨_, -, h⟩ := bind_eq_ok.1 h
    contradiction
  · obtain ⟨folder, -, h⟩ := bind_eq_ok.1 h
    obtain ⟨_, -, h⟩ := bind_eq_ok.1 h
    contradiction

/-- A path leads to the file that is put where the path is to be written. -/
theorem resolve_put {path : String} {place : Place} (h : disk.target path = .ok place)
    (bytes : ByteArray) :
    (disk.put place (.file bytes)).resolve path = .ok (place, .file bytes) := by
  obtain ⟨before, n, folder, htext, hsteps, htail, hfollow, hfolder, hname, hplace, rfl⟩ :=
    target_eq_ok h
  have hkept := foldersKept_put hplace (.file bytes)
  have hfound : (disk.put (folder ++ [n]) (.file bytes)).get? (folder ++ [n])
      = some (.file bytes) := get?_put_self disk (by simp) _
  have hmove : (disk.put (folder ++ [n]) (.file bytes)).move folder (.name n)
      = .ok (folder ++ [n]) :=
    move_name_eq_ok.2 ⟨hkept _ hfolder, hname, ⟨_, hfound⟩, rfl⟩
  -- Up to the folder the way is the old one; the last step is to what was put there.
  have hway : (disk.put (folder ++ [n]) (.file bytes)).follow (disk.start (Path.parse path))
      (Path.parse path).steps = .ok (folder ++ [n]) := by
    rw [hsteps, follow_append, ok_bind (hkept.follow hfolder before hfollow), follow_cons,
      ok_bind hmove]
    rfl
  rw [resolve, ok_bind htext]
  show (follow _ (disk.start (Path.parse path)) (Path.parse path).steps >>= _) = _
  rw [ok_bind hway]
  simp only [hfound, if_pos htail]

theorem write_eq_ok {disk' : Disk} {path : String} {bytes : ByteArray} :
    disk.write path bytes = .ok disk'
      ↔ ∃ place, disk.target path = .ok place ∧ disk.put place (.file bytes) = disk' := by
  rw [write, bind_eq_ok]
  simp only [Except.ok.injEq]

/-- A file that was written at a path is found under it. -/
theorem holds_write {disk' : Disk} {path : String} {bytes : ByteArray}
    (h : disk.write path bytes = .ok disk') : disk'.Holds path bytes := by
  obtain ⟨place, htarget, rfl⟩ := write_eq_ok.1 h
  exact ⟨place, resolve_put htarget bytes⟩

/-- The text of a file that was written is read back. -/
theorem readText_of_holds {path text : String} (h : disk.Holds path text.toUTF8) :
    disk.readText path = .ok text := by
  obtain ⟨place, h⟩ := h
  rw [readText, ok_bind h]
  simp only [Text.decode?_toUTF8]

/-- Bytes that are read as a text are those of the text. -/
theorem toUTF8_of_decode? {bytes : ByteArray} {text : String} (h : Text.decode? bytes = some text) :
    text.toUTF8 = bytes := by
  rw [Text.decode?, String.fromUTF8?] at h
  split at h
  · injection h with h
    rw [← h]
    rfl
  · contradiction

/-- A text is read exactly where a file holds its bytes. -/
theorem readText_eq_ok {path text : String} :
    disk.readText path = .ok text ↔ disk.Holds path text.toUTF8 := by
  constructor
  · intro h
    obtain ⟨⟨place, entry⟩, hplace, h⟩ := bind_eq_ok.1 h
    cases entry with
    | folder => contradiction
    | file bytes =>
      dsimp only at h
      split at h
      · next s hbytes =>
        injection h with h
        rw [← h, toUTF8_of_decode? hbytes]
        exact ⟨place, hplace⟩
      · contradiction
  · exact readText_of_holds

end Inventory.Files.Disk
