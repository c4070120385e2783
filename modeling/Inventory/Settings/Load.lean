import Inventory.Fault
import Inventory.Files.Disk
import Inventory.Settings.Basic

/-!
# Loading settings

Settings are one JSON document in a file. A file that cannot be read is a fault of its own.
-/

namespace Inventory.Settings

open Files (Disk Trouble)

/-- The settings in a file. -/
def load (disk : Disk) (path : String) : Except Fault Settings :=
  match disk.readText path with
  | .error trouble => .error (.file trouble)
  | .ok text => (Settings.schema.read text).mapError .json

/-- What loading reports, whatever comes of it. -/
def loadEvents (path : String) : List Event := [.loadingSettings path]

end Inventory.Settings
