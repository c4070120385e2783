import Inventory.Batch.Save
import Inventory.Proofs.Text.Split
import Mathlib.Data.List.TakeWhile

/-!
# Where samples are saved

Without a path a batch is saved in a file named for the type of its records. The type is put into
the path as it is: the file stands in the folder of samples under that name exactly when there is
no slash in the type, and the path is one that may be given as well exactly when something stands
after the last slash. Main statement: `samplePath_contained`.
-/

namespace Inventory

open Files (Disk Path Step)
open Text (isSeparator_of_mem_split split split_append_separator split_of_none)

namespace Files.Path

/-- The name of a file holds no slash. -/
theorem slash_not_mem_of_fileName? {text n : String} (h : (parse text).fileName? = some n) :
    '/' ∉ n.toList := by
  intro hslash
  unfold fileName? at h
  split at h
  · next m hlast =>
    obtain rfl := Option.some.inj h
    obtain ⟨part, hpart, hstep⟩ := List.mem_filterMap.1 (List.mem_of_getLast? hlast)
    unfold Step.ofPart? at hstep
    split at hstep
    · contradiction
    · split at hstep
      · exact Step.noConfusion (Option.some.inj hstep)
      · obtain rfl := Step.name.inj (Option.some.inj hstep)
        rw [String.toList_ofList] at hslash
        have hpart := isSeparator_of_mem_split hpart '/' hslash
        exact absurd hpart (by decide)
  · contradiction

/-- The parts of a path up to its last slash and after it. -/
theorem steps_parse {text : String} {before name : List Char}
    (htext : text.toList = before ++ '/' :: name) (hname : '/' ∉ name) :
    (parse text).steps
      = (split (· == '/') before).filterMap Step.ofPart? ++ (Step.ofPart? name).toList := by
  have hlast : split (· == '/') name = [name] := split_of_none fun c hc => by
    rw [beq_eq_false_iff_ne]
    rintro rfl
    exact hname hc
  have hparts : split (· == '/') (before ++ '/' :: name) = split (· == '/') before ++ [name] := by
    rw [← hlast]
    exact split_append_separator rfl name before
  simp only [parse, htext, hparts, List.filterMap_append]
  cases hstep : Step.ofPart? name with
  | none => rw [List.filterMap_cons_none hstep]; rfl
  | some step => rw [List.filterMap_cons_some hstep]; rfl

end Files.Path

/-! ## Names of samples -/

/-- The name of a sample is a step of its own, whatever stands before the extension. -/
theorem ofPart?_sample (name : List Char) :
    Step.ofPart? (name ++ ".json".toList)
      = some (.name (String.ofList (name ++ ".json".toList))) := by
  have hlength : 5 ≤ (name ++ ".json".toList).length := by
    have hjson : ".json".toList.length = 5 := rfl
    rw [List.length_append, hjson]
    omega
  have hshort : ∀ part : List Char, part.length < 5 → name ++ ".json".toList ≠ part := by
    rintro part hpart rfl
    omega
  unfold Step.ofPart?
  rw [if_neg (not_or.2 ⟨hshort [] (by decide), hshort ['.'] (by decide)⟩),
    if_neg (hshort ['.', '.'] (by decide))]

/-- A name has the extension of samples unless nothing stands before it. -/
theorem extensionOf?_sample (name : List Char) :
    Path.extensionOf? (name ++ ".json".toList)
      = if name = [] then none else some "json".toList := by
  have hreverse : (name ++ ".json".toList).reverse
      = ['n', 'o', 's', 'j'] ++ '.' :: name.reverse := by
    rw [List.reverse_append]
    rfl
  have hafter : ((name ++ ".json".toList).reverse.takeWhile (· ≠ '.')).reverse = "json".toList := by
    rw [hreverse]
    rfl
  have hbefore : ((name ++ ".json".toList).reverse.dropWhile (· ≠ '.')).reverse
      = name ++ ['.'] := by
    have hdrop : (['n', 'o', 's', 'j'] ++ '.' :: name.reverse).dropWhile (· ≠ '.')
        = '.' :: name.reverse := rfl
    rw [hreverse, hdrop, List.reverse_cons, List.reverse_reverse]
  unfold Path.extensionOf?
  dsimp only
  rw [hafter, hbefore]
  cases name with
  | nil => rfl
  | cons c name =>
    rw [if_neg (List.cons_ne_nil c name)]
    split
    · next h => exact absurd h (List.cons_ne_nil _ _)
    · next h => exact absurd (List.append_eq_nil_iff.1 (List.cons.inj h).2).2 (List.cons_ne_nil _ _)
    · rfl

namespace Batch

/-- What stands after the last slash of a type, the whole type if there is none. -/
def fileStem (recordType : List Char) : List Char :=
  (recordType.reverse.takeWhile (· ≠ '/')).reverse

theorem slash_not_mem_fileStem (recordType : List Char) : '/' ∉ fileStem recordType := by
  intro h
  have hmem := List.mem_takeWhile_imp (List.mem_reverse.1 h)
  exact absurd hmem (by decide)

theorem fileStem_of_no_slash {recordType : List Char} (h : '/' ∉ recordType) :
    fileStem recordType = recordType := by
  have hall : recordType.reverse.takeWhile (· ≠ '/') = recordType.reverse := by
    rw [List.takeWhile_eq_self_iff]
    intro c hc
    rw [decide_eq_true_eq]
    rintro rfl
    exact h (List.mem_reverse.1 hc)
  rw [fileStem, hall, List.reverse_reverse]

/-- Nothing stands after the last slash if the slash is the end, or if there is nothing at all. -/
theorem fileStem_eq_nil_iff {recordType : List Char} :
    fileStem recordType = [] ↔ recordType = [] ∨ recordType.getLast? = some '/' := by
  rw [fileStem, List.reverse_eq_nil_iff, ← List.head?_reverse]
  cases hr : recordType.reverse with
  | nil => simpa using List.reverse_eq_nil_iff.1 hr
  | cons c rest =>
    have hne : recordType ≠ [] := by
      rintro rfl
      contradiction
    by_cases hc : c = '/'
    · simp [hc]
    · simp [hc, hne]

/-- A type is what stands up to its last slash, if there is one, and what stands after it. -/
theorem eq_fileStem (recordType : List Char) :
    recordType = fileStem recordType ∨
      ∃ before, recordType = before ++ '/' :: fileStem recordType := by
  have hsplit := congrArg List.reverse
    (List.takeWhile_append_dropWhile (p := (· ≠ '/')) (l := recordType.reverse))
  rw [List.reverse_append, List.reverse_reverse] at hsplit
  cases hdrop : recordType.reverse.dropWhile (· ≠ '/') with
  | nil =>
    rw [hdrop] at hsplit
    exact .inl hsplit.symm
  | cons c rest =>
    have hc : c ∈ (recordType.reverse.dropWhile (· ≠ '/')).head? := by rw [hdrop]; rfl
    obtain rfl : c = '/' := by simpa using Text.head?_dropWhile c hc
    rw [hdrop, List.reverse_cons, List.append_assoc] at hsplit
    exact .inr ⟨rest.reverse, hsplit.symm⟩

/-- The path of a sample ends in a slash, what stands after the last slash of the type, and the
extension. -/
theorem toList_samplePath (b : Batch) :
    ∃ before, b.samplePath.toList
      = before ++ '/' :: (fileStem b.recordType.toList ++ ".json".toList) ∧
      ('/' ∉ b.recordType.toList → before = sampleFolder.toList) := by
  have hname : (b.recordType ++ ".json").toList = b.recordType.toList ++ ".json".toList :=
    String.toList_append
  unfold samplePath Path.join
  split
  · next rest hrooted =>
    rw [hname] at hrooted ⊢
    rcases eq_fileStem b.recordType.toList with hstem | ⟨before, hbefore⟩
    · -- A slash in front would be in the type, and the stem holds none.
      cases ht : b.recordType.toList with
      | nil =>
        rw [ht] at hrooted
        exact absurd (List.cons.inj hrooted).1 (by decide)
      | cons c cs =>
        rw [ht] at hrooted
        obtain rfl := (List.cons.inj hrooted).1
        rw [hstem] at ht
        exact absurd (ht ▸ List.mem_cons_self ..) (slash_not_mem_fileStem _)
    · refine ⟨before, ?_, fun hslash => ?_⟩
      · conv => lhs; rw [hbefore]
        rw [List.append_assoc, List.cons_append]
      · rw [hbefore] at hslash
        exact absurd (List.mem_append_right _ (List.mem_cons_self ..)) hslash
  · have hpath : (sampleFolder ++ "/" ++ (b.recordType ++ ".json")).toList
        = sampleFolder.toList ++ '/' :: (b.recordType.toList ++ ".json".toList) := by
      have hslash : "/".toList = ['/'] := rfl
      rw [String.toList_append, String.toList_append, hname, hslash, List.append_assoc]
      rfl
    rw [hpath]
    rcases eq_fileStem b.recordType.toList with hstem | ⟨before, hbefore⟩
    · exact ⟨sampleFolder.toList, by rw [← hstem], fun _ => rfl⟩
    · refine ⟨sampleFolder.toList ++ '/' :: before, ?_, fun hslash => ?_⟩
      · conv => lhs; rw [hbefore]
        simp only [List.append_assoc, List.cons_append]
      · rw [hbefore] at hslash
        exact absurd (List.mem_append_right _ (List.mem_cons_self ..)) hslash

theorem fileName?_samplePath (b : Batch) :
    (Path.parse b.samplePath).fileName?
      = some (String.ofList (fileStem b.recordType.toList ++ ".json".toList)) := by
  obtain ⟨before, hpath, -⟩ := toList_samplePath b
  have hname : '/' ∉ fileStem b.recordType.toList ++ ".json".toList := by
    rw [List.mem_append, not_or]
    exact ⟨slash_not_mem_fileStem _, by decide⟩
  rw [Path.fileName?, Path.steps_parse hpath hname, ofPart?_sample, Option.toList_some,
    List.getLast?_concat]

/-- The path of a sample is one that may be given unless nothing stands before its extension. -/
theorem acceptsPath_samplePath (b : Batch) :
    acceptsPath b.samplePath = true ↔ fileStem b.recordType.toList ≠ [] := by
  rw [acceptsPath, Path.extension?, fileName?_samplePath, Option.bind_some, String.toList_ofList,
    extensionOf?_sample]
  by_cases hstem : fileStem b.recordType.toList = []
  · simp [hstem]
  · simp [hstem]

/-- A sample stands in the folder of samples, named for the whole type, if there is no slash in the
type. -/
theorem parent_samplePath {b : Batch} (h : '/' ∉ b.recordType.toList) :
    (Path.parse b.samplePath).parent = Path.parse sampleFolder := by
  obtain ⟨before, hpath, hbefore⟩ := toList_samplePath b
  have hname : '/' ∉ fileStem b.recordType.toList ++ ".json".toList := by
    rw [List.mem_append, not_or]
    exact ⟨slash_not_mem_fileStem _, by decide⟩
  have hsteps := Path.steps_parse hpath hname
  have hrooted : (Path.parse b.samplePath).rooted = true := by
    rw [Path.parse, hpath, hbefore h]
    rfl
  rw [hbefore h, ofPart?_sample, Option.toList_some] at hsteps
  rw [Path.parent, hsteps, hrooted, List.dropLast_concat]
  rfl

/-- A given path is refused for its extension only if it has another one. -/
theorem save_refused_iff (b : Batch) (disk : Disk) (path : String) :
    (∃ p, (b.save disk (some path)).result = .error (.savePath p)) ↔ acceptsPath path = false := by
  constructor
  · rintro ⟨p, hp⟩
    cases haccepts : acceptsPath path with
    | false => rfl
    | true =>
      have hpath : b.savePath (some path) = .ok path := by
        rw [savePath, if_pos haccepts]
      unfold save at hp
      rw [hpath] at hp
      dsimp only at hp
      split at hp
      · exact Fault.noConfusion (Except.error.inj hp)
      · contradiction
  · intro h
    exact ⟨path, congrArg Saving.result (save_of_refused b disk h)⟩

/-- Without a path a batch is saved in the folder of samples, in a file named for the type of its
records, exactly when there is no slash in the type; and the path it is saved at is refused when it
is given, whatever the disk, exactly when the type is empty or ends in a slash. -/
theorem samplePath_contained (b : Batch) :
    ((Path.parse b.samplePath).parent = Path.parse sampleFolder ∧
      (Path.parse b.samplePath).fileName? = some (b.recordType ++ ".json")
      ↔ '/' ∉ b.recordType.toList) ∧
    ∀ disk : Disk, (∃ path, (b.save disk (some b.samplePath)).result = .error (.savePath path)) ↔
      b.recordType.toList = [] ∨ b.recordType.toList.getLast? = some '/' := by
  constructor
  · constructor
    · rintro ⟨-, hname⟩ hslash
      refine Path.slash_not_mem_of_fileName? hname ?_
      rw [String.toList_append]
      exact List.mem_append_left _ hslash
    · intro h
      refine ⟨parent_samplePath h, ?_⟩
      rw [fileName?_samplePath, fileStem_of_no_slash h, ← String.toList_append,
        String.ofList_toList]
  · intro disk
    rw [save_refused_iff, ← fileStem_eq_nil_iff, ← Bool.not_eq_true, acceptsPath_samplePath,
      Decidable.not_not]

/-- A type that starts with a slash leads out of the folder of samples, and without a type the path
of the samples is refused when it is given. -/
theorem samplePath_not_contained :
    samplePath { recordType := "/etc/hosts" } = "/etc/hosts.json" ∧
    (Path.parse "/etc/hosts.json").parent ≠ Path.parse sampleFolder ∧
    samplePath { recordType := "" } = "/sample-data/.json" ∧
    ∀ disk, (save { recordType := "" } disk (some "/sample-data/.json")).result
      = .error (.savePath "/sample-data/.json") := by
  refine ⟨by decide +kernel, by decide +kernel, by decide +kernel, fun disk => ?_⟩
  have hrefused : acceptsPath "/sample-data/.json" = false := by decide +kernel
  rw [save_of_refused _ disk hrefused]

end Batch

end Inventory
