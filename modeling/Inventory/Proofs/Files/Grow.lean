import Inventory.Proofs.Files.Write

/-!
# Making folders

Making the folder that a path ends in puts folders where nothing was, each at a place that the path
goes through, and does nothing else, however far it comes. This is so of one folder, and what was
made before is still on the way once the next one is made, because folders stay. Main statements:
`grown_makeFolder`, `grown_makeFolders` and `grown_makeParent`.
-/

namespace Inventory.Files.Disk

variable {disk disk' : Disk}

/-- The steps go through a place. -/
def Passes (disk : Disk) (start : Place) (steps : List Step) (place : Place) : Prop :=
  ∃ before, before <+: steps ∧ disk.follow start before = .ok place

/-- The path goes through a place. -/
def OnWay (disk : Disk) (path : String) (place : Place) : Prop :=
  disk.Passes (disk.start (Path.parse path)) (Path.parse path).steps place

/-- The second disk is the first one with some folders more, each where nothing was and at a place
of the given kind. -/
structure Grown (disk disk' : Disk) (made : Place → Prop) : Prop where
  home : disk'.home = disk.home
  place : ∀ place, disk'.get? place = disk.get? place ∨
    disk.get? place = none ∧ disk'.get? place = some .folder ∧ made place

namespace Grown

variable {made made' : Place → Prop}

theorem refl (disk : Disk) (made : Place → Prop) : disk.Grown disk made :=
  ⟨rfl, fun _ => .inl rfl⟩

theorem mono (h : disk.Grown disk' made) (himp : ∀ place, made place → made' place) :
    disk.Grown disk' made' where
  home := h.home
  place p := by
    rcases h.place p with hsame | ⟨hnone, hfolder, hmade⟩
    · exact .inl hsame
    · exact .inr ⟨hnone, hfolder, himp p hmade⟩

theorem foldersKept (h : disk.Grown disk' made) : disk.FoldersKept disk' := by
  intro place hplace
  rcases h.place place with hsame | ⟨hnone, -, -⟩
  · rw [hsame, hplace]
  · rw [hnone] at hplace
    contradiction

/-- A file of the second disk was there before. -/
theorem file_iff (h : disk.Grown disk' made) (place : Place) (bytes : ByteArray) :
    disk'.get? place = some (.file bytes) ↔ disk.get? place = some (.file bytes) := by
  rcases h.place place with hsame | ⟨hnone, hfolder, -⟩
  · rw [hsame]
  · simp [hnone, hfolder]

/-- What was made first is of the first kind still, when more is made. -/
theorem trans {between : Disk} (h : disk.Grown between made) (h' : between.Grown disk' made') :
    disk.Grown disk' fun place =>
      between.get? place = some .folder ∧ made place ∨ made' place where
  home := h'.home.trans h.home
  place p := by
    rcases h'.place p with hsame' | ⟨hnone', hfolder', hmade'⟩
    · rcases h.place p with hsame | ⟨hnone, hfolder, hmade⟩
      · exact .inl (hsame'.trans hsame)
      · exact .inr ⟨hnone, hsame'.trans hfolder, .inl ⟨hfolder, hmade⟩⟩
    · rcases h.place p with hsame | ⟨-, hfolder, -⟩
      · exact .inr ⟨hsame.symm.trans hnone', hfolder', .inr hmade'⟩
      · rw [hnone'] at hfolder
        contradiction

end Grown

/-- Steps go through a folder as long as all folders are kept. -/
theorem FoldersKept.passes (hkept : disk.FoldersKept disk') {start place : Place}
    {steps : List Step} (hplace : disk.get? place = some .folder)
    (h : disk.Passes start steps place) : disk'.Passes start steps place := by
  obtain ⟨before, hprefix, hfollow⟩ := h
  exact ⟨before, hprefix, hkept.follow hplace before hfollow⟩

/-! ## One folder -/

/-- A folder is made under a name in a folder, where nothing is. -/
theorem makeFolder_eq_ok {start : Place} {steps : List Step}
    (h : disk.makeFolder start steps = .ok disk') :
    ∃ before n folder, steps = before ++ [.name n] ∧ disk.follow start before = .ok folder ∧
      disk.get? folder = some .folder ∧ ¬ maxName < n.utf8ByteSize ∧
      disk.get? (folder ++ [n]) = none ∧ disk.put (folder ++ [n]) .folder = disk' := by
  unfold makeFolder at h
  split at h
  · contradiction
  split at h
  · contradiction
  next last hlast =>
  obtain ⟨before, hsteps⟩ := List.getLast?_eq_some_iff.1 hlast
  obtain ⟨folder, hfollow, h⟩ := bind_eq_ok.1 h
  rw [hsteps, List.dropLast_concat] at hfollow
  obtain ⟨_, hfolder, h⟩ := bind_eq_ok.1 h
  cases last with
  | up => contradiction
  | name n =>
    obtain ⟨found, hfound, h⟩ := bind_eq_ok.1 h
    obtain ⟨hname, hfound⟩ := lookUp_eq_ok.1 hfound
    cases found with
    | some e => contradiction
    | none =>
      injection h with h
      exact ⟨before, n, folder, hsteps, hfollow, checkFolder_eq_ok.1 hfolder, hname, hfound, h⟩

/-- Making a folder puts it where its steps lead, and nothing else. -/
theorem grown_makeFolder {start : Place} {steps : List Step}
    (h : disk.makeFolder start steps = .ok disk') :
    disk.Grown disk' (disk'.Passes start steps) := by
  obtain ⟨before, n, folder, rfl, hfollow, hfolder, hname, hnone, rfl⟩ := makeFolder_eq_ok h
  have hkept : disk.FoldersKept (disk.put (folder ++ [n]) .folder) :=
    foldersKept_put (by simp [hnone]) .folder
  have hmade : (disk.put (folder ++ [n]) .folder).get? (folder ++ [n]) = some .folder :=
    get?_put_self disk (by simp) _
  refine ⟨rfl, fun place => ?_⟩
  by_cases hplace : place = folder ++ [n]
  · subst hplace
    refine .inr ⟨hnone, hmade, before ++ [.name n], List.prefix_refl _, ?_⟩
    have hmove := move_name_eq_ok.2 ⟨hkept _ hfolder, hname, ⟨_, hmade⟩, rfl⟩
    rw [follow_append, ok_bind (hkept.follow hfolder before hfollow), follow_cons, ok_bind hmove]
    rfl
  · exact .inl (get?_put_of_ne disk hplace _)

/-! ## Folders on the way -/

/-- Making folders, from the first that is missing up to the last, puts them on the way, however
far it comes. -/
theorem grown_makeFolders (start : Place) (disk : Disk) : ∀ steps : List Step,
    disk.Grown (disk.makeFolders start steps).1
      ((disk.makeFolders start steps).1.Passes start steps.reverse)
  | [] => .refl disk _
  | last :: before => by
    have hprefix : before.reverse <+: (last :: before).reverse := by
      rw [List.reverse_cons]
      exact List.prefix_append _ _
    have hlonger {d : Disk} {place : Place} (h : d.Passes start before.reverse place) :
        d.Passes start (last :: before).reverse place := by
      obtain ⟨first, hfirst, hfollow⟩ := h
      exact ⟨first, hfirst.trans hprefix, hfollow⟩
    unfold makeFolders
    dsimp only
    split
    · next made hmade => exact grown_makeFolder hmade
    · -- The folder before it was missing, so that one is made first.
      have hbefore := grown_makeFolders start disk before
      split
      · next between t hbetween =>
        rw [hbetween] at hbefore
        exact hbefore.mono fun _ => hlonger
      · next between hbetween =>
        rw [hbetween] at hbefore
        split
        · next made hmade =>
          have hmade := grown_makeFolder hmade
          refine (hbefore.trans hmade).mono fun place hplace => ?_
          rcases hplace with ⟨hfolder, hpasses⟩ | hpasses
          · exact hmade.foldersKept.passes hfolder (hlonger hpasses)
          · exact hpasses
        · exact hbefore.mono fun _ => hlonger
    · exact .refl disk _

/-- Making the folder that a path ends in puts folders on the way of the path. -/
theorem grown_makeParent (disk : Disk) (path : String) :
    disk.Grown (disk.makeParent path).1 ((disk.makeParent path).1.OnWay path) := by
  have hway {d : Disk} (hhome : d.home = disk.home) {place : Place}
      (h : d.Passes (disk.start (Path.parse path).parent) (Path.parse path).parent.steps place) :
      d.OnWay path place := by
    obtain ⟨before, hprefix, hfollow⟩ := h
    have hstart : d.start (Path.parse path) = disk.start (Path.parse path).parent := by
      unfold start
      rw [hhome]
      rfl
    refine ⟨before, hprefix.trans (List.dropLast_prefix _), ?_⟩
    rw [hstart]
    exact hfollow
  unfold makeParent
  dsimp only
  split
  · exact .refl disk _
  split
  · exact .refl disk _
  split
  · exact .refl disk _
  · have hgrown := grown_makeFolders (disk.start (Path.parse path).parent) disk
      (Path.parse path).parent.steps.reverse
    rw [List.reverse_reverse] at hgrown
    exact hgrown.mono fun place => hway hgrown.home

end Inventory.Files.Disk
