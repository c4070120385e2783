import Inventory.Event
import Inventory.Fault
import Inventory.Files.Disk
import Inventory.Record

/-!
# Saving batches

A batch is saved as one compact JSON document, in a folder of samples unless a path is given. The
folders on the way are made first. Main statement: `save_of_refused` (a path with another
extension changes nothing and reports nothing).
-/

namespace Inventory

open Files (Disk Path)

/-- What came of an operation on a disk: its result, the disk afterwards and what was reported. -/
structure Saving where
  result : Except Fault String
  disk : Disk
  events : List Event

namespace Batch

/-- The folder of samples. -/
def sampleFolder : String := "/sample-data"

/-- Where a batch is saved when no path is given: a file in the folder of samples, named for the
type of the records. -/
def samplePath (b : Batch) : String := Path.join sampleFolder (b.recordType ++ ".json")

/-- A given path must have the extension `json`. -/
def acceptsPath (path : String) : Bool := (Path.parse path).extension? == some "json"

/-- The path of a batch: the given one, if it is accepted, or that of the samples. -/
def savePath (b : Batch) : Option String → Except Fault String
  | none => .ok b.samplePath
  | some path => if acceptsPath path then .ok path else .error (.savePath path)

/-- Writes a document at a path, after making the folders on the way. Folders that were made stay
when the rest fails. -/
def writeAt (disk : Disk) (path document : String) : Disk × Except Files.Trouble Unit :=
  match disk.makeParent path with
  | (disk, .error t) => (disk, .error t)
  | (disk, .ok ()) =>
    match disk.write path document.toUTF8 with
    | .error t => (disk, .error t)
    | .ok disk => (disk, .ok ())

/-- Saves a batch; the result is its path. -/
def save (b : Batch) (disk : Disk) (given : Option String) : Saving :=
  match b.savePath given with
  | .error fault => { result := .error fault, disk, events := [] }
  | .ok path =>
    match writeAt disk path (Batch.schema.write b) with
    | (disk, .error t) =>
      { result := .error (.file t), disk, events := [.savingRecords b.records.length path] }
    | (disk, .ok ()) =>
      { result := .ok path
        disk
        events := [.savingRecords b.records.length path, .savedRecords b.records.length path] }

/-- A path with another extension changes nothing and reports nothing. -/
theorem save_of_refused (b : Batch) (disk : Disk) {path : String}
    (h : acceptsPath path = false) :
    b.save disk (some path) = { result := .error (.savePath path), disk, events := [] } := by
  simp [save, savePath, h]

end Batch

end Inventory
