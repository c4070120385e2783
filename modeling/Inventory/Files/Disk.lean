import Inventory.Files.Path
import Inventory.Files.Trouble
import Inventory.Text.Utf8

/-!
# Disks

A disk holds folders and files by their places, which are names from the root. There are no
links: going up always leads to the folder that was entered before. Operations follow a path step
by step and report the first thing wrong. Main statements: `get?_put_self` and `get?_put_of_ne`
(what is found at a place after something was put on the disk).
-/

namespace Inventory.Files

/-- Names from the root of the disk. -/
abbrev Place := List String

/-- What is at a place. -/
inductive Entry where
  | folder
  | file (bytes : ByteArray)

/-- Folders and files by their places, and the place of the working folder. The root is always a
folder. -/
structure Disk where
  entries : List (Place × Entry)
  home : Place

namespace Disk

/-- What is at a place among entries. -/
def findPlace (place : Place) : List (Place × Entry) → Option Entry
  | [] => none
  | (p, e) :: rest => if p = place then some e else findPlace place rest

/-- What is at a place of the disk. -/
def get? (disk : Disk) (place : Place) : Option Entry :=
  if place = [] then some .folder else findPlace place disk.entries

/-- Sets what is at a place among entries. -/
def setPlace (place : Place) (entry : Entry) : List (Place × Entry) → List (Place × Entry)
  | [] => [(place, entry)]
  | (p, e) :: rest =>
    if p = place then (place, entry) :: rest else (p, e) :: setPlace place entry rest

/-- The disk with something put at a place. -/
def put (disk : Disk) (place : Place) (entry : Entry) : Disk :=
  { disk with entries := setPlace place entry disk.entries }

theorem findPlace_setPlace_self (place : Place) (entry : Entry) :
    ∀ entries, findPlace place (setPlace place entry entries) = some entry
  | [] => by simp [setPlace, findPlace]
  | (p, e) :: rest => by
    unfold setPlace
    split
    · simp [findPlace]
    · next h => simp [findPlace, h, findPlace_setPlace_self place entry rest]

theorem findPlace_setPlace_of_ne {place other : Place} (h : other ≠ place) (entry : Entry) :
    ∀ entries, findPlace other (setPlace place entry entries) = findPlace other entries
  | [] => by simp [setPlace, findPlace, Ne.symm h]
  | (p, e) :: rest => by
    unfold setPlace
    split
    · next heq => subst heq; simp [findPlace, Ne.symm h]
    · simp [findPlace, findPlace_setPlace_of_ne h entry rest]

theorem get?_put_self (disk : Disk) {place : Place} (h : place ≠ []) (entry : Entry) :
    (disk.put place entry).get? place = some entry := by
  simp [get?, put, h, findPlace_setPlace_self]

theorem get?_put_of_ne (disk : Disk) {place other : Place} (h : other ≠ place) (entry : Entry) :
    (disk.put place entry).get? other = disk.get? other := by
  simp [get?, put, findPlace_setPlace_of_ne h]

/-! ## Following paths -/

/-- The longest name, in bytes. -/
def maxName : Nat := 255

/-- The longest path, in bytes. -/
def maxPath : Nat := 4095

/-- The place is a folder. -/
def checkFolder (disk : Disk) (place : Place) : Except Trouble Unit :=
  match disk.get? place with
  | some .folder => .ok ()
  | some (.file _) => .error .notFolder
  | none => .error .missing

/-- What a name inside a folder leads to, if anything is there. -/
def lookUp (disk : Disk) (folder : Place) (name : String) : Except Trouble (Option Entry) :=
  if maxName < name.utf8ByteSize then .error .nameTooLong
  else .ok (disk.get? (folder ++ [name]))

/-- The place that steps lead to from a folder. -/
def follow (disk : Disk) : Place → List Step → Except Trouble Place
  | place, [] => .ok place
  | place, step :: rest => do
    disk.checkFolder place
    match step with
    | .up => disk.follow place.dropLast rest
    | .name n =>
      match ← disk.lookUp place n with
      | none => .error .missing
      | some _ => disk.follow (place ++ [n]) rest

/-- The place where the steps of a path begin. -/
def start (disk : Disk) (path : Path) : Place := if path.rooted then [] else disk.home

/-- A text that can be a path: it is not empty, holds no zero byte and is not too long. -/
def checkText (text : String) : Except Trouble Unit :=
  if text.toList.contains '\x00' then .error .zeroByte
  else if text.isEmpty then .error .missing
  else if maxPath < text.utf8ByteSize then .error .nameTooLong
  else .ok ()

/-- What a path leads to. After a slash at its end only a folder will do. -/
def resolve (disk : Disk) (text : String) : Except Trouble (Place × Entry) := do
  checkText text
  let path := Path.parse text
  let place ← disk.follow (disk.start path) path.steps
  match disk.get? place with
  | none => .error .missing
  | some .folder => .ok (place, .folder)
  | some (.file bytes) =>
    if path.tail = .nothing then .ok (place, .file bytes) else .error .notFolder

/-- The text of a file. -/
def readText (disk : Disk) (text : String) : Except Trouble String := do
  match ← disk.resolve text with
  | (_, .folder) => .error .isFolder
  | (_, .file bytes) =>
    match Text.decode? bytes with
    | some s => .ok s
    | none => .error .notText

/-- The place that a file written at a path takes, whether or not one is there already. -/
def target (disk : Disk) (text : String) : Except Trouble Place := do
  checkText text
  let path := Path.parse text
  match path.steps.getLast?, path.tail with
  | some (.name n), .nothing => do
    let folder ← disk.follow (disk.start path) path.steps.dropLast
    disk.checkFolder folder
    match ← disk.lookUp folder n with
    | some .folder => .error .isFolder
    | _ => .ok (folder ++ [n])
  | some (.name _), .slash => do
    let folder ← disk.follow (disk.start path) path.steps.dropLast
    disk.checkFolder folder
    .error .isFolder
  | _, _ => do
    let place ← disk.follow (disk.start path) path.steps
    disk.checkFolder place
    .error .isFolder

/-- The disk with a file written at a path; what was in the file before is gone. -/
def write (disk : Disk) (text : String) (bytes : ByteArray) : Except Trouble Disk := do
  let place ← disk.target text
  .ok (disk.put place (.file bytes))

/-! ## Making folders -/

/-- The steps lead to something. -/
def isThere (disk : Disk) (place : Place) (steps : List Step) : Bool :=
  match disk.follow place steps with
  | .error _ => false
  | .ok found => (disk.get? found).isSome

/-- The steps lead to a folder. -/
def isFolderAt (disk : Disk) (place : Place) (steps : List Step) : Bool :=
  match disk.follow place steps with
  | .error _ => false
  | .ok found =>
    match disk.get? found with
    | some .folder => true
    | _ => false

/-- A name among the steps holds a zero byte, so that it cannot be asked for. -/
def hasZeroByte (steps : List Step) : Bool :=
  steps.any fun
    | .up => false
    | .name n => n.toList.contains '\x00'

/-- The disk with one folder made, where the steps lead to. -/
def makeFolder (disk : Disk) (place : Place) (steps : List Step) : Except Trouble Disk :=
  if hasZeroByte steps then .error .zeroByte
  else match steps.getLast? with
  | none => .error .alreadyThere
  | some last => do
    let folder ← disk.follow place steps.dropLast
    disk.checkFolder folder
    match last with
    | .up => .error .alreadyThere
    | .name n =>
      match ← disk.lookUp folder n with
      | some _ => .error .alreadyThere
      | none => .ok (disk.put (folder ++ [n]) .folder)

/-- Makes a folder and all folders on the way to it; the steps are given from the last to the
first. Folders that were made stay when a later one cannot be made. -/
def makeFolders (disk : Disk) (place : Place) : List Step → Disk × Except Trouble Unit
  | [] => (disk, .ok ())
  | last :: before =>
    let steps := (last :: before).reverse
    match disk.makeFolder place steps with
    | .ok disk => (disk, .ok ())
    | .error .missing =>
      match disk.makeFolders place before with
      | (disk, .error t) => (disk, .error t)
      | (disk, .ok ()) =>
        match disk.makeFolder place steps with
        | .ok disk => (disk, .ok ())
        | .error t => (disk, if disk.isFolderAt place steps then .ok () else .error t)
    | .error t => (disk, if disk.isFolderAt place steps then .ok () else .error t)

/-- Makes the folder that a path ends in, unless something is there already. The path of the folder
must be one that can be asked for. -/
def makeParent (disk : Disk) (text : String) : Disk × Except Trouble Unit :=
  let parent := (Path.parse text).parent
  let place := disk.start parent
  if hasZeroByte parent.steps then (disk, .error .zeroByte)
  else if maxPath < (Path.parentText text).utf8ByteSize then (disk, .error .nameTooLong)
  else if disk.isThere place parent.steps then (disk, .ok ())
  else disk.makeFolders place parent.steps.reverse

end Disk

end Inventory.Files
